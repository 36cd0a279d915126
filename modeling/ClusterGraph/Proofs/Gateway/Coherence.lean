import ClusterGraph.Proofs.Gateway.InTurn
import ClusterGraph.Proofs.Store.Uniqueness

/-!
# Creating, reading and deleting one object

If calls take no time and none is made to fail, an object that has been created is read as it was
given back, for as long as it is only read and created again in vain; then it can be deleted, and
there is none under its name (`Gateway.create_get_delete`). A session that answers the caller
(`World.Serves`) does so after every call, and what a call answers and leaves is told by the
operation of the store alone.
-/
namespace ClusterGraph

def Resource.reference (resource : Resource) : Reference :=
  ⟨resource.apiVersion, resource.kind, resource.nspace, resource.name⟩

namespace Document

/-- The reference of a resource names the object that the resource describes. -/
theorem identity_of_ofDocument {d : Document} {resource : Resource}
    (remodelled : Resource.ofDocument d = .ok resource) : d.identity =
      (resource.apiVersion, resource.kind, resource.nspace, some resource.name) := by
  unfold Resource.ofDocument at remodelled
  split at remodelled
  · cases remodelled
  · next name named =>
    cases remodelled
    rw [identity, named]

end Document

namespace World
variable {callTimeout : Nat} {r : Request} {w v : World Store} {α : Type}

/-- The calls of a caller are answered at once and as the store itself answers them. -/
structure Serves (callTimeout : Nat) (r : Request) (w : World Store) : Prop where
  ready : w.ReadyFor callTimeout r
  uncancelled : cancelled r.cancelAt w = false
  welcome : w.refusal? r = none
  working : ∀ kind, w.backend.failure? kind = none

theorem Serves.sameFor (serves : w.Serves callTimeout r) (same : SameFor r w v) :
    v.Serves callTimeout r where
  ready := same.readyFor serves.ready.swift
  uncancelled := (same.cancelled_eq r.cancelAt).trans serves.uncancelled
  welcome := same.refusal.trans serves.welcome
  working := by
    rw [same.backend]
    exact serves.working

theorem Serves.after (serves : w.Serves callTimeout r)
    {f : Store → Except BackendError α × Store} (plain : Store.Plain f) :
    (w.after f).Serves callTimeout r where
  ready := ⟨serves.ready.swift.after plain, serves.ready.idle⟩
  uncancelled := serves.uncancelled
  welcome := (refusal?_after plain r w).trans serves.welcome
  working := by
    change ∀ kind, (f w.backend).2.failure? kind = none
    rw [plain.frame]
    exact serves.working

end World

namespace Gateway
variable {callTimeout requestTimeout : Nat} {r : Request} {w v : World Store} {α γ : Type}

/-! ## Answers of a session that serves the caller -/

/-- A mutation is answered as its command is, and changes nothing else for the caller. -/
theorem mutate_of_serves (requestTimeout : Nat) (serves : w.Serves callTimeout r) (s : Stage)
    (operation : String) (call : RecordedCall)
    {f : Option String → Store → Except BackendError α × Store}
    (plain : ∀ restriction, Store.Plain (f restriction)) (remodel : α → Except Failure γ) :
    ∃ u, ((ofStore callTimeout requestTimeout).mutate r s operation call f remodel).run w =
        (some (staged s remodel (f r.scope.normalized.nspace w.backend).1), u) ∧
      World.SameFor r (w.after (f r.scope.normalized.nspace)) u := by
  have mutated : Work.AtOnce _
      ((ofStore callTimeout requestTimeout).mutate r s operation call f remodel) w :=
    mutate_atOnce (.refl serves.ready.idle) serves.ready.swift serves.uncancelled s operation call
      plain remodel
  obtain ⟨answer, u, ran, ended⟩ := mutated.run
  have carried : Store.commanded call (f r.scope.normalized.nspace) w.backend =
      f r.scope.normalized.nspace w.backend := by
    simp only [Store.commanded, serves.working]
  rw [serves.welcome] at ended
  obtain ⟨same, rfl⟩ := ended
  rw [carried] at ran
  refine ⟨u, ran, ?_⟩
  simpa only [World.after, World.mapBackend, carried] using same

/-- A read is answered as its query is, and changes nothing for the caller. -/
theorem fetch_of_serves (requestTimeout : Nat) (serves : w.Serves callTimeout r) (s : Stage)
    (operation : String) (call : RecordedCall)
    {f : Option String → Store → Except BackendError α}
    (blind : ∀ restriction (s : Store) calls builds,
      f restriction { s with calls := calls, builds := builds } = f restriction s)
    (remodel : α → Except Failure γ) :
    ∃ u, ((ofStore callTimeout requestTimeout).fetch r s operation call f remodel).run w =
        (some (staged s remodel (f r.scope.normalized.nspace w.backend)), u) ∧
      World.SameFor r w u := by
  have read : Work.AtOnce _
      ((ofStore callTimeout requestTimeout).fetch r s operation call f remodel) w :=
    fetch_atOnce (.refl serves.ready.idle) serves.ready.swift serves.uncancelled s operation call
      blind remodel
  obtain ⟨answer, u, ran, same, rfl⟩ := read.run
  refine ⟨u, ?_, same⟩
  rw [ran]
  simp only [fetched, serves.welcome, queried, serves.working]
  cases f r.scope.normalized.nspace w.backend <;> rfl

theorem get_of_serves (requestTimeout : Nat) (serves : w.Serves callTimeout r)
    (reference : Reference) :
    ∃ u, ((ofStore callTimeout requestTimeout).get r reference).run w =
        (some (staged .get Resource.ofDocument
          (w.backend.get r.scope.normalized.nspace reference)), u) ∧ World.SameFor r w u := by
  rw [get_eq]
  exact fetch_of_serves requestTimeout serves .get "get" (.get reference) (fun _ _ _ _ => rfl)
    Resource.ofDocument

/-! ## An object that is there -/

/-- The session serves the caller, who may use the object of a resource, and that is the first one
of its name. -/
structure Holds (callTimeout : Nat) (r : Request) (resource : Resource) (w : World Store) :
    Prop where
  serves : w.Serves callTimeout r
  permitted : Store.checkNamespace r.scope.normalized.nspace resource.nspace = .ok ()
  stored : ∃ d, w.backend.objects.find? (·.isNamedBy resource.reference) = some d ∧
    Resource.ofDocument d = .ok resource

namespace Holds
variable {resource : Resource}

theorem of_objects (holds : Holds callTimeout r resource w) (serves : v.Serves callTimeout r)
    (objects : v.backend.objects = w.backend.objects) : Holds callTimeout r resource v :=
  ⟨serves, holds.permitted, by simpa only [objects] using holds.stored⟩

/-- The object is read as the resource. -/
theorem get (requestTimeout : Nat) (holds : Holds callTimeout r resource w) :
    ∃ u, ((ofStore callTimeout requestTimeout).get r resource.reference).run w =
        (some (.ok resource), u) ∧ Holds callTimeout r resource u := by
  obtain ⟨u, ran, same⟩ := get_of_serves requestTimeout holds.serves resource.reference
  obtain ⟨d, found, remodelled⟩ := holds.stored
  have answered : w.backend.get r.scope.normalized.nspace resource.reference = .ok d :=
    Store.get_eq_ok_iff.mpr ⟨holds.permitted, found⟩
  rw [answered] at ran
  have objects : u.backend.objects = w.backend.objects := by rw [same.backend]
  exact ⟨u, ran.trans (by rw [staged, remodelled]),
    holds.of_objects (holds.serves.sameFor same) objects⟩

/-- An object of the same name cannot be created. -/
theorem create (requestTimeout : Nat) (holds : Holds callTimeout r resource w) {raw : String}
    {patches : List Patch} {d : Document} (prepared : Document.prepare raw patches = .ok d)
    (taken : d.isNamedBy resource.reference = true) :
    ∃ f u, ((ofStore callTimeout requestTimeout).create r raw patches).run w =
        (some (.error f), u) ∧ f.stage = .create ∧ u.backend.objects = w.backend.objects ∧
      Holds callTimeout r resource u := by
  have shape := Document.metadataIsObject_of_prepare raw patches d prepared
  rw [create_eq, prepared]
  obtain ⟨u, ran, same⟩ := mutate_of_serves requestTimeout holds.serves .create "create" (.create d)
    (fun restriction => Store.plain_create restriction d) Resource.ofDocument
  have served := (holds.serves.after (Store.plain_create _ d)).sameFor same
  have objects : u.backend.objects =
      (w.backend.create r.scope.normalized.nspace d).2.objects := by rw [same.backend]; rfl
  rcases outcome : w.backend.create r.scope.normalized.nspace d with ⟨e | stored, after⟩
  · rw [outcome] at ran objects
    have spared := objects.trans (Store.objects_of_create_error outcome)
    exact ⟨_, u, ran, rfl, spared, holds.of_objects served spared⟩
  · -- What would be stored has the identity of the object that is there.
    obtain ⟨o, found, remodelled⟩ := holds.stored
    have sent := (d.isNamedBy_iff _).mp taken
    have there := (o.isNamedBy_iff _).mp (List.find?_some (p := fun o : Document =>
      o.isNamedBy resource.reference) found)
    have name : d.name? = some resource.name := congrArg (fun i => i.2.2.2) sent
    have stored := (Store.identity_of_create name outcome).trans (sent.trans there.symm)
    have fresh := Store.identity_fresh_of_create shape outcome
    rw [stored] at fresh
    exact absurd (List.mem_map_of_mem (List.mem_of_find?_eq_some found)) fresh

/-- The object can be deleted, and then there is none of its name. -/
theorem delete (requestTimeout : Nat) (holds : Holds callTimeout r resource w) :
    ∃ snapshot u, ((ofStore callTimeout requestTimeout).delete r resource.reference).run w =
        (some (.ok snapshot), u) ∧
      ∃ t, ((ofStore callTimeout requestTimeout).get r resource.reference).run u =
        (some (.error (.of .get (.backend (.notFound resource.reference.text)))), t) := by
  obtain ⟨snapshot, remodelled, -⟩ := Resource.ofDocument_ofReference resource.reference
  obtain ⟨o, found, -⟩ := holds.stored
  rw [delete_eq callTimeout requestTimeout r resource.reference snapshot remodelled]
  obtain ⟨u, ran, same⟩ := mutate_of_serves requestTimeout holds.serves .delete "delete"
    (.delete resource.reference) (fun restriction => Store.plain_delete restriction _)
    fun _ => .ok snapshot
  have served := (holds.serves.after (Store.plain_delete _ _)).sameFor same
  have objects : u.backend.objects =
      (w.backend.delete r.scope.normalized.nspace resource.reference).2.objects := by
    rw [same.backend]
    rfl
  obtain ⟨after, outcome⟩ := Store.delete_of_named holds.permitted
    ⟨o, List.mem_of_find?_eq_some found, List.find?_some (p := fun o : Document =>
      o.isNamedBy resource.reference) found⟩
  rw [outcome] at ran objects
  obtain ⟨t, read, -⟩ := get_of_serves requestTimeout served resource.reference
  refine ⟨snapshot, u, ran, t, read.trans ?_⟩
  have gone : u.backend.get r.scope.normalized.nspace resource.reference =
      .error (.notFound resource.reference.text) := by
    have none : u.backend.objects.find? (·.isNamedBy resource.reference) = none := by
      rw [objects, (Store.deleted_of_delete outcome).objects]
      simp
    unfold Store.get
    rw [show Store.checkNamespace _ resource.reference.nspace = .ok () from holds.permitted, none]
    rfl
  rw [gone]
  rfl

end Holds

/-! ## From the creation on -/

/-- A call of a request that has been cancelled beforehand fails. -/
theorem not_ok_of_cancelled (stopped : cancelled r.cancelAt w = true) (limit : Nat)
    (operation : String) (call : Call Store α) (a : α) :
    ((r.bounded limit operation call).run w).1 ≠ some (.ok a) := by
  rcases r.run_bounded limit operation call w with halted | ⟨deadline, same⟩
  · rw [halted]
    exact nofun
  · rw [same, Work.run_bounded_of_cancelled stopped]
    exact nofun

theorem uncancelled_of_mutate {g : Gateway Store} {s : Stage} {operation : String}
    {call : RecordedCall} {f : Option String → Store → Except BackendError α × Store}
    {remodel : α → Except Failure γ} {a : γ}
    (answered : (g.mutate r s operation call f remodel).run w = (some (.ok a), v)) :
    cancelled r.cancelAt w = false := by
  refine eq_false_of_ne_true fun stopped => ?_
  have refused := not_ok_of_cancelled stopped g.callTimeout "client"
    (acquire g.backend r.identity r.scope)
  unfold mutate client at answered
  rw [run_next, run_stage] at answered
  generalize (r.bounded g.callTimeout "client" _).run w = got at refused answered
  obtain ⟨_ | e | c, u⟩ := got
  · cases answered
  · cases answered
  · exact refused c rfl

/-- The session serves the caller, and an object that the caller may use stands after others, none
of which has its identity. -/
structure Appended (callTimeout : Nat) (r : Request) (before : List Document) (resource : Resource)
    (w : World Store) : Prop where
  serves : w.Serves callTimeout r
  permitted : Store.checkNamespace r.scope.normalized.nspace resource.nspace = .ok ()
  stored : ∃ d, w.backend.objects = before ++ [d] ∧ d.identity ∉ before.map Document.identity ∧
    Resource.ofDocument d = .ok resource

/-- The object that was put there last is the one that is held. -/
theorem Appended.holds {before : List Document} {resource : Resource}
    (appended : Appended callTimeout r before resource w) : Holds callTimeout r resource w := by
  obtain ⟨d, objects, fresh, remodelled⟩ := appended.stored
  have there := Document.identity_of_ofDocument remodelled
  refine ⟨appended.serves, appended.permitted, d, ?_, remodelled⟩
  rw [objects, List.find?_append, List.find?_eq_none.mpr ?_]
  · simp [(d.isNamedBy_iff resource.reference).mpr there]
  · intro o member named
    have same := (o.isNamedBy_iff _).mp named
    exact fresh (there.trans same.symm ▸ List.mem_map_of_mem member)

/-- A creation that succeeds puts the object that it gives back after the others. -/
theorem appended_of_create (ready : w.ReadyFor callTimeout r)
    (working : ∀ kind, w.backend.failure? kind = none) {raw : String} {patches : List Patch}
    {resource : Resource}
    (created : ((ofStore callTimeout requestTimeout).create r raw patches).run w =
      (some (.ok resource), v)) : Appended callTimeout r w.backend.objects resource v := by
  rw [create_eq] at created
  cases prepared : Document.prepare raw patches with
  | error f =>
    rw [prepared] at created
    cases created
  | ok d =>
    have shape := Document.metadataIsObject_of_prepare raw patches d prepared
    rw [prepared] at created
    have uncancelled := uncancelled_of_mutate created
    have welcome : w.refusal? r = none := by
      cases refusal : w.refusal? r with
      | none => rfl
      | some e =>
        have mutated : Work.AtOnce _ ((ofStore callTimeout requestTimeout).mutate r .create
            "create" (.create d) (fun restriction s => s.create restriction d)
            Resource.ofDocument) w :=
          mutate_atOnce (.refl ready.idle) ready.swift uncancelled .create "create" (.create d)
            (fun restriction => Store.plain_create restriction d) Resource.ofDocument
        obtain ⟨answer, u, ran, ended⟩ := mutated.run
        rw [refusal] at ended
        rw [ended.2] at ran
        cases created.symm.trans ran
    have serves : w.Serves callTimeout r := ⟨ready, uncancelled, welcome, working⟩
    obtain ⟨u, ran, same⟩ := mutate_of_serves requestTimeout serves .create "create" (.create d)
      (fun restriction => Store.plain_create restriction d) Resource.ofDocument
    obtain ⟨answer, rfl⟩ := Prod.mk.inj (created.symm.trans ran)
    have objects : v.backend.objects =
        (w.backend.create r.scope.normalized.nspace d).2.objects := by
      rw [same.backend]
      rfl
    rcases outcome : w.backend.create r.scope.normalized.nspace d with ⟨e | stored, after⟩
    · rw [outcome] at answer
      cases answer
    · rw [outcome] at answer objects
      have remodelled : Resource.ofDocument stored = .ok resource := (Option.some.inj answer).symm
      have there := Document.identity_of_ofDocument remodelled
      have fresh := Store.identity_fresh_of_create shape outcome
      have checked := Store.permitted_of_create outcome
      obtain ⟨added, rfl⟩ := Store.objects_of_create outcome
      refine ⟨(serves.after (Store.plain_create _ d)).sameFor same, ?_, _, objects.trans added,
        fresh, remodelled⟩
      have nspace : _ = resource.nspace := congrArg (fun i => i.2.2.1) there
      rw [← nspace]
      exact (congrArg _ (Store.nspace?_created d _)).trans checked

/-- Sessions that follow on one by reads of the object of a resource and by attempts to create it
again. -/
inductive Follows (g : Gateway Store) (r : Request) (resource : Resource) (w : World Store) :
    World Store → Prop where
  | refl : Follows g r resource w w
  | get {u v : World Store} {answer : Option (Except Failure Resource)}
      (earlier : Follows g r resource w u)
      (read : (g.get r resource.reference).run u = (answer, v)) : Follows g r resource w v
  | create {u v : World Store} {answer : Option (Except Failure Resource)} {raw : String}
      {patches : List Patch} {d : Document} (earlier : Follows g r resource w u)
      (prepared : Document.prepare raw patches = .ok d)
      (taken : d.isNamedBy resource.reference = true)
      (tried : (g.create r raw patches).run u = (answer, v)) : Follows g r resource w v

/-- A session that holds an object holds it until it is deleted or updated. -/
theorem Holds.follows {resource : Resource} {u : World Store}
    (holds : Holds callTimeout r resource w)
    (follows : Follows (ofStore callTimeout requestTimeout) r resource w u) :
    Holds callTimeout r resource u := by
  induction follows with
  | refl => exact holds
  | get _ read ih =>
    obtain ⟨u, ran, still⟩ := ih.get requestTimeout
    cases read.symm.trans ran
    exact still
  | create _ prepared taken tried ih =>
    obtain ⟨f, u, ran, -, -, still⟩ := ih.create requestTimeout prepared taken
    cases tried.symm.trans ran
    exact still

/-- If calls take no time and none is made to fail, what has been created is read as it was given
back, cannot be created again, and can be deleted; after that there is none of its name. -/
theorem create_get_delete (callTimeout requestTimeout : Nat) (r : Request) (raw : String)
    (patches : List Patch) (w v u : World Store) (resource : Resource)
    (ready : w.ReadyFor callTimeout r) (working : ∀ kind, w.backend.failure? kind = none)
    (created : ((ofStore callTimeout requestTimeout).create r raw patches).run w =
      (some (.ok resource), v))
    (follows : Follows (ofStore callTimeout requestTimeout) r resource v u) :
    (∃ t, ((ofStore callTimeout requestTimeout).get r resource.reference).run u =
      (some (.ok resource), t)) ∧
    (∀ raw patches d, Document.prepare raw patches = .ok d →
      d.isNamedBy resource.reference = true →
      ∃ f t, ((ofStore callTimeout requestTimeout).create r raw patches).run u =
        (some (.error f), t) ∧ f.stage = .create ∧ t.backend.objects = u.backend.objects) ∧
    ∃ snapshot t, ((ofStore callTimeout requestTimeout).delete r resource.reference).run u =
        (some (.ok snapshot), t) ∧
      ∃ f t', ((ofStore callTimeout requestTimeout).get r resource.reference).run t =
          (some (.error f), t') ∧
        f.stage = .get ∧ f.isRetriable = false ∧
        f.cause = .backend (.notFound resource.reference.text) := by
  have holds := (appended_of_create ready working created).holds.follows follows
  refine ⟨?_, ?_, ?_⟩
  · obtain ⟨t, ran, -⟩ := holds.get requestTimeout
    exact ⟨t, ran⟩
  · intro raw patches d prepared taken
    obtain ⟨f, t, ran, stage, objects, -⟩ := holds.create requestTimeout prepared taken
    exact ⟨f, t, ran, stage, objects⟩
  · obtain ⟨snapshot, t, ran, t', read⟩ := holds.delete requestTimeout
    exact ⟨snapshot, t, ran, _, t', read, rfl, rfl, rfl⟩

/-- A session with an object that has been put there twice. -/
def crowded : World Store :=
  let widget : Document := ⟨[("apiVersion", .string "example.io/v1"), ("kind", .string "Widget"),
    ("metadata", .object [("name", .string "w"), ("namespace", .string "team-a")])]⟩
  World.start ⟨0, 0⟩ (Cache.empty 600000 256) { Store.empty with objects := [widget, widget] }

/-- A caller that is restricted to a namespace, and cancels much later. -/
def teamCaller : Request := ⟨⟨.bearer "token-a", none⟩, ⟨some "team-a"⟩, none, some 5000⟩

def namelessWidget : String :=
  "\x7b\"apiVersion\":\"example.io/v1\",\"kind\":\"Widget\"," ++
    "\"metadata\":\x7b\"namespace\":\"team-a\",\"generateName\":\"w-\"\x7d\x7d"

theorem create_get_delete_of_crowded :
    crowded.ReadyFor 30000 teamCaller ∧ (∀ kind, crowded.backend.failure? kind = none) ∧
      ∃ resource v, ((ofStore 30000 60000).create teamCaller namelessWidget []).run crowded =
          (some (.ok resource), v) ∧ resource.name = "w-1" ∧
        ∃ t, ((ofStore 30000 60000).get teamCaller resource.reference).run v =
          (some (.ok resource), t) := by
  have ready : crowded.ReadyFor 30000 teamCaller :=
    ⟨⟨rfl, rfl, by decide +kernel, by decide +kernel⟩, Cache.idle_empty _ _ _ _ _⟩
  have working : ∀ kind, crowded.backend.failure? kind = none := fun _ => rfl
  have named : (((ofStore 30000 60000).create teamCaller namelessWidget []).run crowded).1.map
      (·.toOption.map Resource.name) = some (some "w-1") := by
    decide +kernel
  rcases created : ((ofStore 30000 60000).create teamCaller namelessWidget []).run crowded with
    ⟨_ | f | resource, v⟩
  · rw [created] at named
    cases named
  · rw [created] at named
    cases named
  · rw [created] at named
    exact ⟨ready, working, resource, v, rfl, Option.some.inj (Option.some.inj named),
      (create_get_delete 30000 60000 teamCaller namelessWidget [] crowded v v resource ready working
        created .refl).1⟩

end Gateway
end ClusterGraph
