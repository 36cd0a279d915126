import ClusterGraph.Proofs.Gateway.Mutation
import ClusterGraph.Proofs.Store.Objects
import Mathlib.Data.List.Induction

/-!
# One object to an identity

An object is identified by its `apiVersion`, kind, namespace and name. A creation checks that the
identity is free, and a deletion only takes objects out, so both keep the identities of a store
distinct. An update stores the document that it is sent, whatever identity that has: the identities
stay distinct exactly as long as no update that is carried out gives an object the identity of
another one.
-/
namespace ClusterGraph

namespace Document

def identity (d : Document) : String × String × Option String × Option String :=
  (d.apiVersion, d.kind, d.nspace?, d.name?)

/-- Documents that agree in the fields that identify an object. -/
theorem identity_eq {d e : Document} (fields : ∀ key, key ≠ "metadata" → d.get? key = e.get? key)
    (nspace : d.metadata? "namespace" = e.metadata? "namespace")
    (name : d.metadata? "name" = e.metadata? "name") : d.identity = e.identity := by
  unfold identity apiVersion kind nspace? name? metaText?
  rw [fields "apiVersion" (by decide), fields "kind" (by decide), nspace, name]

theorem isNamedBy_iff (d : Document) (r : Reference) :
    d.isNamedBy r = true ↔ d.identity = (r.apiVersion, r.kind, r.nspace, some r.name) := by
  simp [isNamedBy, identity, and_assoc]

/-- An object keeps no trace of the identity of the one that it replaces. -/
theorem Replaces.identity {stored sent previous : Document} {sequence : Nat}
    (replaces : stored.Replaces sent previous sequence) : stored.identity = sent.identity :=
  identity_eq replaces.fields
    (replaces.metadata "namespace" (by decide) (by decide) (by decide))
    (replaces.metadata "name" (by decide) (by decide) (by decide))

end Document

namespace Store
open Document (MetadataIsObject)

def identities (s : Store) : List (String × String × Option String × Option String) :=
  s.objects.map Document.identity

section Commands
variable {s after : Store} {restriction : Option String} {r : Reference} {d stored : Document}

/-- An object is stored under the identity that was looked for before. -/
theorem identity_stamped (d : Document) (sequence : Nat) :
    (stamped d sequence).identity = d.identity :=
  Document.identity_eq (fun _ different => get?_stamped d sequence different)
    (metadata?_stamped_of_ne d sequence (by decide) (by decide) (by decide))
    (metadata?_stamped_of_ne d sequence (by decide) (by decide) (by decide))

/-- An object whose name was sent is created under the identity that was sent. -/
theorem identity_of_create {name : String} (named : d.name? = some name)
    (success : s.create restriction d = (.ok stored, after)) : stored.identity = d.identity := by
  obtain ⟨-, rfl⟩ := objects_of_create success
  rw [identity_stamped, Store.named, named]

/-- A created object has an identity of its own. -/
theorem identity_fresh_of_create (shape : d.MetadataIsObject)
    (success : s.create restriction d = (.ok stored, after)) :
    stored.identity ∉ s.identities := by
  have name : (named d (s.sequence + 1)).2.name? = some (named d (s.sequence + 1)).1 :=
    (Document.name?_eq_some_iff _ _).mpr (metadata?_name_named shape (s.sequence + 1))
  unfold create at success
  split at success
  · cases success
  dsimp only at success
  split at success
  · cases success
  next free =>
  cases success
  rw [identity_stamped]
  intro taken
  obtain ⟨o, member, same⟩ := List.mem_map.mp taken
  refine free (List.any_eq_true.mpr ⟨o, member, ?_⟩)
  simp only [Document.identity, Prod.mk.injEq, name] at same
  simp [same]

theorem nodup_create (shape : d.MetadataIsObject) (distinct : s.identities.Nodup) :
    (s.create restriction d).2.identities.Nodup := by
  rcases outcome : s.create restriction d with ⟨e | stored, after⟩
  · rw [identities, objects_of_create_error outcome]
    exact distinct
  · have fresh := identity_fresh_of_create shape outcome
    rw [identities, (created_of_create shape outcome).objects, List.map_append]
    refine List.nodup_append.mpr ⟨distinct, by simp, ?_⟩
    rintro old member new singleton rfl
    exact fresh (List.mem_singleton.mp singleton ▸ member)

theorem nodup_delete (distinct : s.identities.Nodup) :
    (s.delete restriction r).2.identities.Nodup := by
  rcases outcome : s.delete restriction r with ⟨e | done, after⟩
  · rw [identities, objects_of_delete_error outcome]
    exact distinct
  · rw [identities, (deleted_of_delete outcome).objects]
    exact distinct.sublist (List.filter_sublist.map _)

/-- An update would replace an object, and another object has the identity of what is sent. -/
def Clashes (s : Store) (restriction : Option String) (r : Reference) (d : Document) : Prop :=
  checkNamespace restriction r.nspace = .ok () ∧ (∃ o ∈ s.objects, o.isNamedBy r = true) ∧
    d.identity ∈ (s.objects.eraseP (·.isNamedBy r)).map Document.identity

/-- An update keeps the identities distinct exactly if it does not clash. -/
theorem nodup_update_iff (shape : d.MetadataIsObject) (distinct : s.identities.Nodup) :
    (s.update restriction r d).2.identities.Nodup ↔ ¬ s.Clashes restriction r d := by
  rcases outcome : s.update restriction r d with ⟨e | stored, after⟩
  · refine ⟨fun _ clash => ?_, fun _ => ?_⟩
    · -- An update that is refused finds nothing that it may replace.
      obtain ⟨stored, left, success⟩ := update_of_named d clash.1 clash.2.1
      rw [outcome] at success
      cases success
    · rw [identities, objects_of_update_error outcome]
      exact distinct
  · obtain ⟨early, previous, late, before, others, named, objects, replaces⟩ :=
      (updated_of_update shape outcome).objects
    have rest : s.objects.eraseP (·.isNamedBy r) = early ++ late := by
      rw [before, List.eraseP_append_right _ fun o member => ne_true_of_eq_false (others o member),
        List.eraseP_cons, named]
      rfl
    have allowed := permitted_of_update outcome
    have clash :
        s.Clashes restriction r d ↔ d.identity ∈ (early ++ late).map Document.identity := by
      unfold Clashes
      rw [rest]
      have stored : previous ∈ s.objects := before ▸ List.mem_append_right early List.mem_cons_self
      exact ⟨fun clash => clash.2.2, fun taken => ⟨allowed, ⟨previous, stored, named⟩, taken⟩⟩
    have others : ((early ++ late).map Document.identity).Nodup := by
      rw [identities, before] at distinct
      exact distinct.sublist
        (((List.Sublist.refl early).append (List.sublist_cons_self previous late)).map _)
    rw [clash, identities, objects, List.map_append, List.map_cons, List.perm_middle.nodup_iff,
      List.nodup_cons, replaces.identity, ← List.map_append]
    exact ⟨fun nodup => nodup.1, fun fresh => ⟨fresh, others⟩⟩

end Commands

/-! ## Sequences of calls -/

/-- A call is recorded, takes its time, and goes on unless calls of its kind fail. -/
theorem run_enter {α : Type} (call : RecordedCall) (next : Call Store α) (w : World Store) :
    (enter call next).run w =
      let v := { w with now := w.now + w.backend.delay, backend := w.backend.record call }
      match w.backend.failure? call.kind with
      | some e => (some (.error e), v)
      | none => next.run v := by
  unfold enter
  rw [Work.run, Work.run_bind, World.run_sleep]
  dsimp only
  cases w.backend.failure? call.kind <;> rfl

/-- What a call of a client leaves of the store: it is recorded, and carried out unless calls of its
kind fail. -/
theorem backend_run_enter {α : Type} (call : RecordedCall)
    (f : Store → Except BackendError α × Store) (w : World Store) :
    ((enter call (command f)).run w).2.backend =
      if (w.backend.failure? call.kind).isSome then w.backend.record call
      else (f (w.backend.record call)).2 := by
  rw [run_enter]
  cases w.backend.failure? call.kind <;> rfl

/-- What happens to a store: a call of a client, or new settings of what fails and how long calls
take. -/
inductive Move where
  | create (c : Client) (d : Document)
  | update (c : Client) (r : Reference) (d : Document)
  | delete (c : Client) (r : Reference)
  | arrange (failures : List (CallKind × BackendError)) (delay : Nat)

namespace Move

def next (w : World Store) : Move → World Store
  | create c d => ((backend.create c d).run w).2
  | update c r d => ((backend.update c r d).run w).2
  | delete c r => ((backend.delete c r).run w).2
  | arrange failures delay => w.mapBackend fun s => { s with failures := failures, delay := delay }

def run (moves : List Move) (w : World Store) : World Store := moves.foldl next w

/-- The document that is sent, if any, has metadata that is an object or absent. -/
def Sound : Move → Prop
  | create _ d => d.MetadataIsObject
  | update _ _ d => d.MetadataIsObject
  | delete _ _ => True
  | arrange _ _ => True

/-- The move is an update that is carried out and gives an object the identity of another one. -/
def Clashes (s : Store) : Move → Prop
  | update c r d => s.failure? .update = none ∧ s.Clashes c.scope.nspace r d
  | _ => False

/-- A move keeps the identities distinct exactly if it does not clash. -/
theorem nodup_next_iff {w : World Store} (distinct : w.backend.identities.Nodup) (move : Move)
    (sound : move.Sound) :
    (move.next w).backend.identities.Nodup ↔ ¬ move.Clashes w.backend := by
  cases move with
  | create c d =>
    refine ⟨fun _ => id, fun _ => ?_⟩
    change ((enter _ (command _)).run w).2.backend.identities.Nodup
    rw [backend_run_enter]
    split
    · exact distinct
    · exact nodup_create sound distinct
  | update c r d =>
    change ((enter _ (command _)).run w).2.backend.identities.Nodup ↔ _
    rw [backend_run_enter]
    split
    · next failing =>
      refine ⟨fun _ clash => ?_, fun _ => distinct⟩
      rw [show w.backend.failure? (RecordedCall.update r d).kind = none from clash.1] at failing
      cases failing
    · next works =>
      have working : w.backend.failure? .update = none := Option.not_isSome_iff_eq_none.mp works
      -- Recording a call leaves the objects alone.
      have recorded : (w.backend.record (.update r d)).identities.Nodup := distinct
      rw [nodup_update_iff sound recorded]
      exact not_congr ⟨fun clash => ⟨working, clash⟩, fun clash => clash.2⟩
  | delete c r =>
    refine ⟨fun _ => id, fun _ => ?_⟩
    change ((enter _ (command _)).run w).2.backend.identities.Nodup
    rw [backend_run_enter]
    split
    · exact distinct
    · exact nodup_delete distinct
  | arrange failures delay => exact ⟨fun _ => id, fun _ => distinct⟩

theorem run_concat (before : List Move) (move : Move) (w : World Store) :
    run (before ++ [move]) w = move.next (run before w) := by
  unfold run
  rw [List.foldl_append]
  rfl

/-- In a store that starts without objects, the identities are distinct all along exactly if no move
clashes when it is made. -/
theorem identities_distinct_iff (w : World Store) (bare : w.backend.objects = [])
    (moves : List Move) (sound : ∀ move ∈ moves, move.Sound) :
    (∀ before after, moves = before ++ after → (run before w).backend.identities.Nodup) ↔
      ∀ before move after, moves = before ++ move :: after →
        ¬ move.Clashes (run before w).backend := by
  constructor
  · intro distinct before move after split
    have now := distinct before (move :: after) split
    have next := distinct (before ++ [move]) after (by simp [split])
    rw [run_concat] at next
    exact (nodup_next_iff now move (sound move (split ▸ by simp))).mp next
  · intro peaceful before
    -- From the empty store on, each move keeps what holds before it.
    induction before using List.reverseRecOn with
    | nil =>
      intro after split
      simp [run, identities, bare]
    | append_singleton before move ih =>
      intro after split
      rw [List.append_assoc] at split
      rw [run_concat]
      exact (nodup_next_iff (ih _ split) move (sound move (split ▸ by simp))).mpr
        (peaceful before move after split)

def widget (name : String) : Document :=
  ⟨[("apiVersion", .string "example.io/v1"), ("kind", .string "Widget"),
    ("metadata", .object [("name", .string name)])]⟩

def unrestricted : Client := ⟨1, ⟨.bearer "token-a", none⟩, ⟨none⟩⟩

/-- Two widgets are created, and then the first one is updated with the document of the second. -/
def takeover : List Move :=
  [.create unrestricted (widget "a"), .create unrestricted (widget "b"),
    .update unrestricted ⟨"example.io/v1", "Widget", none, "a"⟩ (widget "b")]

def emptySession : World Store := World.start ⟨0, 0⟩ (Cache.empty 600000 256) Store.empty

theorem sound_takeover : ∀ move ∈ takeover, move.Sound := by
  have sound : ∀ name, (widget name).MetadataIsObject := by
    intro name metadata found
    cases found
    rfl
  simp [takeover, Sound, sound]

theorem identities_distinct_iff_of_takeover :
    (∀ move ∈ takeover, move.Sound) ∧
      ¬ ∀ before after, takeover = before ++ after →
        (run before emptySession).backend.identities.Nodup := by
  refine ⟨sound_takeover, fun distinct => ?_⟩
  have peaceful := (identities_distinct_iff emptySession rfl takeover sound_takeover).mp distinct
  refine peaceful (takeover.take 2) _ [] rfl ⟨by decide +kernel, by decide, ?_, ?_⟩
  · decide +kernel
  · decide +kernel

/-- An update gives a widget the identity of another one, and both are stored. -/
theorem identity_taken_over :
    (run takeover emptySession).backend.identities =
        [("example.io/v1", "Widget", none, some "b"), ("example.io/v1", "Widget", none, some "b")] ∧
      ¬ (run takeover emptySession).backend.identities.Nodup := by
  decide +kernel

end Move
end Store
end ClusterGraph
