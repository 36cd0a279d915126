import ClusterGraph.Proofs.Store.Uniqueness

/-!
# Clients that stay in their namespace

A client that is restricted to a namespace is refused what lies outside: a list call, a reference
and a document that is created are checked before anything else. Of an update, only the reference is
checked. The object that it replaces lies in the namespace, the document that is stored in its place
may lie anywhere.

So the objects outside the namespace are never changed or removed by restricted clients, and these
clients stay in their namespace altogether exactly as long as no update that is carried out sends a
document of another one (`RecordedCall.confined_iff`, `RecordedCall.update_leaves_namespace`).
-/
namespace ClusterGraph

theorem Document.nspace?_of_isNamedBy {d : Document} {r : Reference}
    (named : d.isNamedBy r = true) : d.nspace? = r.nspace := by
  simp only [isNamedBy, Bool.and_eq_true, decide_eq_true_eq] at named
  exact named.1.2

/-! ## What a call is answered -/

namespace RecordedCall

/-- What a store does when a call is carried out under a restriction: the objects that it gives
back, and the store that it leaves. -/
def served (restriction : Option String) (s : Store) :
    RecordedCall → Except BackendError (List Document) × Store
  | .list request => (s.list restriction request, s)
  | .get r => ((s.get restriction r).map fun d => [d], s)
  | .create d => ((s.create restriction d).1.map fun d => [d], (s.create restriction d).2)
  | .update r d => ((s.update restriction r d).1.map fun d => [d], (s.update restriction r d).2)
  | .delete r => ((s.delete restriction r).1.map fun _ => [], (s.delete restriction r).2)

def made (c : Client) : RecordedCall → Call Store (List Document)
  | .list request => Store.backend.list c request
  | .get r => (Store.backend.get c r).bind fun a => .done (a.map fun d => [d])
  | .create d => (Store.backend.create c d).bind fun a => .done (a.map fun d => [d])
  | .update r d => (Store.backend.update c r d).bind fun a => .done (a.map fun d => [d])
  | .delete r => (Store.backend.delete c r).bind fun a => .done (a.map fun _ => [])

/-- A call whose answer is given back in another form. -/
theorem run_enter_map {α γ : Type} (call : RecordedCall) (next : Call Store α) (form : α → γ)
    (w : World Store) :
    ((Store.enter call next).bind fun a => .done (a.map form)).run w =
      let v := { w with now := w.now + w.backend.delay, backend := w.backend.record call }
      match w.backend.failure? call.kind with
      | some e => (some (.error e), v)
      | none => ((next.run v).1.map (Except.map form), (next.run v).2) := by
  rw [Work.run_bind, Store.run_enter]
  dsimp only
  cases w.backend.failure? call.kind with
  | some e => rfl
  | none =>
    dsimp only
    rcases next.run _ with ⟨_ | answer, v⟩ <;> rfl

/-- A call fails as all calls of its kind do, or is carried out. -/
theorem run_made (c : Client) (call : RecordedCall) (w : World Store) :
    (call.made c).run w =
      let s := w.backend.record call
      let later := w.now + w.backend.delay
      match w.backend.failure? call.kind with
      | some e => (some (.error e), { w with now := later, backend := s })
      | none => (some (call.served c.scope.nspace s).1,
          { w with now := later, backend := (call.served c.scope.nspace s).2 }) := by
  cases call with
  | list request => exact Store.run_enter _ _ w
  | get r => exact run_enter_map _ _ _ w
  | create d => exact run_enter_map _ _ _ w
  | update r d => exact run_enter_map _ _ _ w
  | delete r => exact run_enter_map _ _ _ w

end RecordedCall

/-! ## Inside and outside -/

namespace Store

def outside (s : Store) (nspace : String) : List Document :=
  s.objects.filter fun d => d.nspace? ≠ some nspace

section Restricted
variable {s after : Store} {nspace : String} {r : Reference} {d stored : Document}

theorem checkNamespace_ok_iff (nspace : String) (asked : Option String) :
    checkNamespace (some nspace) asked = .ok () ↔ asked = some nspace := by
  unfold checkNamespace
  dsimp only
  split <;> simp_all

theorem outside_eq_of_objects (same : after.objects = s.objects) :
    after.outside nspace = s.outside nspace := by
  unfold outside
  rw [same]

/-- What is stored in the place of an object lies where it was sent to. -/
theorem nspace?_replacing (d previous : Document) (sequence : Nat) :
    (replacing d previous sequence).nspace? = d.nspace? := by
  unfold Document.nspace? Document.metaText?
  rw [metadata?_replacing_of_ne d previous sequence (by decide) (by decide) (by decide)]

theorem nspace?_of_list {request : ListRequest} {items : List Document}
    (success : s.list (some nspace) request = .ok items) :
    ∀ d ∈ items, d.nspace? = some nspace := by
  obtain ⟨permitted, rfl⟩ := (list_eq_ok_iff request items).mp success
  rw [(checkNamespace_ok_iff nspace _).mp permitted]
  intro d member
  simpa using (Bool.and_eq_true_iff.mp (List.mem_filter.mp member).2).2

theorem nspace?_of_get (success : s.get (some nspace) r = .ok d) : d.nspace? = some nspace := by
  obtain ⟨permitted, found⟩ := get_eq_ok_iff.mp success
  have named : d.isNamedBy r = true :=
    List.find?_some (p := fun o : Document => o.isNamedBy r) found
  rw [Document.nspace?_of_isNamedBy named]
  exact (checkNamespace_ok_iff nspace _).mp permitted

theorem inside_of_create (success : s.create (some nspace) d = (.ok stored, after)) :
    stored.nspace? = some nspace ∧ after.outside nspace = s.outside nspace := by
  obtain ⟨objects, rfl⟩ := objects_of_create success
  have inside : (stamped (named d (s.sequence + 1)).2 (s.sequence + 1)).nspace? = some nspace := by
    rw [nspace?_created]
    exact (checkNamespace_ok_iff nspace _).mp (permitted_of_create success)
  refine ⟨inside, ?_⟩
  unfold outside
  rw [objects, List.filter_append]
  simp [inside]

theorem outside_of_delete (success : s.delete (some nspace) r = (.ok (), after)) :
    after.outside nspace = s.outside nspace := by
  have here := (checkNamespace_ok_iff nspace _).mp (permitted_of_delete success)
  unfold outside
  rw [(deleted_of_delete success).objects, List.filter_filter]
  refine List.filter_congr fun d _ => ?_
  -- What the reference names lies in the namespace.
  cases named : d.isNamedBy r with
  | true => simp [Document.nspace?_of_isNamedBy named, here]
  | false => simp

/-- An update that sends a document of the namespace leaves what lies outside alone. One that sends
another document puts it among the objects outside; those are all kept. -/
theorem outside_of_update (success : s.update (some nspace) r d = (.ok stored, after)) :
    stored.nspace? = d.nspace? ∧
      (d.nspace? = some nspace → after.outside nspace = s.outside nspace) ∧
      (d.nspace? ≠ some nspace → (s.outside nspace).Sublist (after.outside nspace) ∧
        (s.outside nspace).length < (after.outside nspace).length) := by
  have here := (checkNamespace_ok_iff nspace _).mp (permitted_of_update success)
  obtain ⟨early, previous, late, before, -, named, objects, rfl⟩ := objects_of_update success
  have sent := nspace?_replacing d previous (s.sequence + 1)
  have inside : previous.nspace? = some nspace := (Document.nspace?_of_isNamedBy named).trans here
  unfold outside
  rw [before, objects]
  simp only [List.filter_append, List.filter_cons, sent, inside]
  refine ⟨trivial, fun same => by simp [same], fun other => ?_⟩
  simp only [other, ne_eq, not_true_eq_false, not_false_eq_true, decide_true, decide_false,
    Bool.false_eq_true, if_true, if_false]
  refine ⟨(List.Sublist.refl _).append (List.sublist_cons_self _ _), ?_⟩
  simp only [List.length_append, List.length_cons]
  omega

end Restricted
end Store

/-! ## Sequences of calls -/

namespace RecordedCall

def givenTo (c : Client) (call : RecordedCall) (w : World Store) : List Document :=
  match ((call.made c).run w).1 with
  | some (.ok items) => items
  | _ => []

def after (c : Client) (call : RecordedCall) (w : World Store) : World Store :=
  ((call.made c).run w).2

/-- Calls of clients, one after another: all the objects that they are given, and the session that
the last call leaves. -/
def inTurn : List (Client × RecordedCall) → World Store → List Document × World Store
  | [], w => ([], w)
  | (c, call) :: rest, w =>
    (call.givenTo c w ++ (inTurn rest (call.after c w)).1, (inTurn rest (call.after c w)).2)

/-- The call is an update of an object of the namespace, and the document that it sends lies
outside. -/
def SendsOutside (nspace : String) (s : Store) : RecordedCall → Prop
  | .update r d => r.nspace = some nspace ∧ (∃ o ∈ s.objects, o.isNamedBy r = true) ∧
      d.nspace? ≠ some nspace
  | _ => False

/-- The call is carried out, and sends a document that lies outside the namespace. -/
def Strays (nspace : String) (s : Store) (call : RecordedCall) : Prop :=
  s.failure? call.kind = none ∧ call.SendsOutside nspace s

def StrayInTurn (nspace : String) : List (Client × RecordedCall) → World Store → Prop
  | [], _ => False
  | (c, call) :: rest, w =>
    call.Strays nspace w.backend ∨ StrayInTurn nspace rest (call.after c w)

section Step
variable {nspace : String} {s : Store}

/-- One object that is given lies where it was found or stored. -/
theorem nspace?_of_map {answer : Except BackendError Document}
    (given : ∀ d, answer = .ok d → d.nspace? = some nspace) {items : List Document}
    (success : answer.map (fun d => [d]) = .ok items) : ∀ d ∈ items, d.nspace? = some nspace := by
  cases answer with
  | error e => cases success
  | ok d =>
    cases success
    intro o member
    cases List.mem_singleton.mp member
    exact given d rfl

/-- What a restricted client is given lies in its namespace, and what lies outside is left alone,
unless the client sends a document that lies outside. -/
theorem served_inside (call : RecordedCall) (inside : ¬ call.SendsOutside nspace s) :
    (∀ items, (call.served (some nspace) s).1 = .ok items → ∀ d ∈ items, d.nspace? = some nspace) ∧
      (call.served (some nspace) s).2.outside nspace = s.outside nspace := by
  cases call with
  | list request => exact ⟨fun items success => Store.nspace?_of_list success, rfl⟩
  | get r =>
    refine ⟨fun items => nspace?_of_map fun d found => ?_, rfl⟩
    exact Store.nspace?_of_get found
  | create d =>
    rcases outcome : s.create (some nspace) d with ⟨e | stored, after⟩
    · simp only [served, outcome]
      exact ⟨nofun, Store.outside_eq_of_objects (Store.objects_of_create_error outcome)⟩
    · obtain ⟨here, same⟩ := Store.inside_of_create outcome
      simp only [served, outcome]
      refine ⟨fun items => nspace?_of_map ?_, same⟩
      rintro _ ⟨⟩
      exact here
  | update r d =>
    rcases outcome : s.update (some nspace) r d with ⟨e | stored, after⟩
    · simp only [served, outcome]
      exact ⟨nofun, Store.outside_eq_of_objects (Store.objects_of_update_error outcome)⟩
    · obtain ⟨early, previous, late, before, -, named, -⟩ := Store.objects_of_update outcome
      have here := (Store.checkNamespace_ok_iff nspace _).mp (Store.permitted_of_update outcome)
      have sent : d.nspace? = some nspace := by
        by_contra other
        exact inside ⟨here, ⟨previous, by simp [before], named⟩, other⟩
      obtain ⟨same, kept, -⟩ := Store.outside_of_update outcome
      simp only [served, outcome]
      refine ⟨fun items => nspace?_of_map ?_, kept sent⟩
      rintro _ ⟨⟩
      exact same.trans sent
  | delete r =>
    rcases outcome : s.delete (some nspace) r with ⟨e | u, after⟩
    · simp only [served, outcome]
      exact ⟨nofun, Store.outside_eq_of_objects (Store.objects_of_delete_error outcome)⟩
    · simp only [served, outcome]
      refine ⟨fun items success => ?_, Store.outside_of_delete outcome⟩
      cases success
      exact fun _ => nofun

/-- A document that is sent outside comes to those that are there. -/
theorem served_outside (call : RecordedCall) (sends : call.SendsOutside nspace s) :
    (s.outside nspace).Sublist ((call.served (some nspace) s).2.outside nspace) ∧
      (s.outside nspace).length < ((call.served (some nspace) s).2.outside nspace).length := by
  cases call with
  | update r d =>
    obtain ⟨here, named, other⟩ := sends
    have permitted := (Store.checkNamespace_ok_iff nspace r.nspace).mpr here
    obtain ⟨stored, after, outcome⟩ := Store.update_of_named d permitted named
    simp only [served, outcome]
    exact (Store.outside_of_update outcome).2.2 other
  | _ => exact sends.elim

variable {c : Client} {w : World Store}

/-- What a call by a client leaves of the objects outside, and what it gives. -/
theorem stays_of_not_strays (restricted : c.scope.nspace = some nspace) {call : RecordedCall}
    (stays : ¬ call.Strays nspace w.backend) :
    (∀ d ∈ call.givenTo c w, d.nspace? = some nspace) ∧
      (call.after c w).backend.outside nspace = w.backend.outside nspace := by
  unfold givenTo after
  rw [run_made]
  dsimp only
  cases working : w.backend.failure? call.kind with
  | some e => exact ⟨nofun, rfl⟩
  | none =>
    have inside : ¬ call.SendsOutside nspace (w.backend.record call) :=
      fun sends => stays ⟨working, sends⟩
    obtain ⟨given, same⟩ := served_inside call inside
    rw [restricted]
    refine ⟨fun d member => ?_, same⟩
    split at member
    · next items success =>
      exact given items (by simpa using success) d member
    · cases member

theorem strays_outside (restricted : c.scope.nspace = some nspace) {call : RecordedCall}
    (strays : call.Strays nspace w.backend) :
    (w.backend.outside nspace).Sublist ((call.after c w).backend.outside nspace) ∧
      (w.backend.outside nspace).length < ((call.after c w).backend.outside nspace).length := by
  have sends : call.SendsOutside nspace (w.backend.record call) := strays.2
  unfold after
  rw [run_made, strays.1, restricted]
  exact served_outside call sends

end Step

/-- Whatever restricted clients do, the objects outside their namespace are kept as they are and in
their order. Nothing comes to them, and every object that the clients are given lies in the
namespace, exactly if no update that is carried out sends a document of another namespace. -/
theorem confined_iff (nspace : String) (calls : List (Client × RecordedCall))
    (restricted : ∀ call ∈ calls, call.1.scope.nspace = some nspace) (w : World Store) :
    (w.backend.outside nspace).Sublist ((inTurn calls w).2.backend.outside nspace) ∧
      (((∀ d ∈ (inTurn calls w).1, d.nspace? = some nspace) ∧
          (inTurn calls w).2.backend.outside nspace = w.backend.outside nspace) ↔
        ¬ StrayInTurn nspace calls w) := by
  induction calls generalizing w with
  | nil => simp [inTurn, StrayInTurn]
  | cons first rest ih =>
    obtain ⟨c, call⟩ := first
    have own : c.scope.nspace = some nspace := restricted _ List.mem_cons_self
    obtain ⟨kept, later⟩ := ih (fun call member => restricted call (List.mem_cons_of_mem _ member))
      (call.after c w)
    unfold inTurn StrayInTurn
    by_cases strays : call.Strays nspace w.backend
    · -- An object more lies outside from here on.
      obtain ⟨grows, more⟩ := strays_outside own strays
      refine ⟨grows.trans kept, iff_of_false ?_ fun stays => stays (.inl strays)⟩
      rintro ⟨-, same⟩
      have fewer := kept.length_le
      rw [same] at fewer
      omega
    · obtain ⟨given, same⟩ := stays_of_not_strays own strays
      rw [same] at kept later
      refine ⟨kept, ?_⟩
      simp only [strays, false_or, ← later, List.forall_mem_append]
      exact and_congr_left' ⟨fun all => all.2, fun rest => ⟨given, rest⟩⟩

def widgetOf (nspace : String) : Document :=
  ⟨[("apiVersion", .string "example.io/v1"), ("kind", .string "Widget"),
    ("metadata", .object [("name", .string "w"), ("namespace", .string nspace)])]⟩

def oneWidget : World Store :=
  World.start ⟨0, 0⟩ (Cache.empty 600000 256) { Store.empty with objects := [widgetOf "team-a"] }

def clientOf (nspace : String) : Client := ⟨1, ⟨.bearer "token-a", none⟩, ⟨some nspace⟩⟩

/-- The widget is updated with a document of another namespace. -/
def movingOut : List (Client × RecordedCall) :=
  [(clientOf "team-a",
    .update ⟨"example.io/v1", "Widget", some "team-a", "w"⟩ (widgetOf "team-b"))]

theorem confined_iff_of_movingOut :
    (∀ call ∈ movingOut, call.1.scope.nspace = some "team-a") ∧
      ¬ ((∀ d ∈ (inTurn movingOut oneWidget).1, d.nspace? = some "team-a") ∧
        (inTurn movingOut oneWidget).2.backend.outside "team-a" =
          oneWidget.backend.outside "team-a") := by
  have restricted : ∀ call ∈ movingOut, call.1.scope.nspace = some "team-a" := by
    simp [movingOut, clientOf]
  refine ⟨restricted, fun confined => ?_⟩
  have peaceful := (confined_iff "team-a" movingOut restricted oneWidget).2.mp confined
  refine peaceful (.inl ⟨rfl, rfl, ?_⟩)
  exact ⟨⟨widgetOf "team-a", List.mem_singleton_self _, by decide⟩, by decide⟩

/-- A client that is restricted to a namespace puts an object into another one and is given it. -/
theorem update_leaves_namespace :
    (inTurn movingOut oneWidget).1.map Document.nspace? = [some "team-b"] ∧
      oneWidget.backend.outside "team-a" = [] ∧
      ((inTurn movingOut oneWidget).2.backend.outside "team-a").map Document.nspace? =
        [some "team-b"] := by
  decide +kernel

end RecordedCall
end ClusterGraph
