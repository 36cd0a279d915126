import ClusterGraph.Access.Acquire
import ClusterGraph.Proofs.Work.Outcome

/-!
# What acquiring a client changes

Acquiring a client changes the cache and the tickets, and what the factory changes; it sets neither
the clock nor the backend itself (`changes_acquire`). A pause changes the clock alone
(`World.run_sleep`).
-/
namespace ClusterGraph
variable {β : Type} {change : World β → World β → Prop}

/-- A pause ends when it is over. -/
theorem World.run_sleep (delay : Nat) (w : World β) :
    (Work.sleep delay).run w = (some (), { w with now := w.now + delay }) := by
  by_cases none : delay = 0
  · subst none
    rfl
  · have later : ¬ w.now + delay ≤ w.now := by omega
    have coming : w.now < w.now + delay := by omega
    simp [Work.sleep, Work.look, none, Work.run, Clocked.now, Clocked.setNow, later, Work.upcoming,
      coming]

/-- A kind of change that takes in everything but what concerns the clock and the backend. -/
structure World.Aside (change : World β → World β → Prop) : Prop where
  of_same : ∀ w v : World β, v.now = w.now → v.backend = w.backend → change w v
  trans : ∀ u v w : World β, change u v → change v w → change u w

theorem World.Aside.refl (aside : World.Aside change) (w : World β) : change w w :=
  aside.of_same w w rfl rfl

section Factory
variable {build : Factory β} (aside : World.Aside change)
  (built : ∀ identity scope, Work.Changes change (build identity scope)) (key : CacheKey)
  (slot ticket : Nat)
include aside

theorem changes_conclude (result : Except BackendError Client) :
    Work.Changes change (conclude (β := β) key slot ticket result) := by
  cases result with
  | ok client =>
    refine .look aside.refl fun w => ?_
    exact .act (fun _ => aside.of_same _ _ rfl rfl) fun _ => .done _
  | error e =>
    exact .act (fun _ => aside.of_same _ _ rfl rfl) fun _ =>
      .act (fun _ => aside.of_same _ _ rfl rfl) fun _ => .done _

include built

theorem changes_proceed : Work.Changes change (proceed build key slot ticket) := by
  refine .look aside.refl fun w => ?_
  split
  · exact .done _
  · refine Work.Changes.bind ?_ fun result => changes_conclude aside key slot ticket result
    exact (built key.identity key.scope).onAbandon _ aside.trans fun _ =>
      aside.of_same _ _ rfl rfl

theorem changes_awaitTurn (arrival : Arrival) :
    Work.Changes change (awaitTurn build key slot arrival) := by
  cases arrival with
  | hit client => exact .done _
  | queued ticket =>
    refine .look aside.refl fun w => ?_
    split
    · exact changes_proceed aside built key slot ticket
    · exact .wait (fun _ => aside.of_same _ _ rfl rfl) (changes_proceed aside built key slot ticket)

theorem changes_visit (found : Option Nat) : Work.Changes change (visit build key found) := by
  cases found with
  | none => exact .wait aside.refl (.done _)
  | some slot =>
    refine (Work.Changes.step fun w => ?_).bind fun arrival =>
      changes_awaitTurn aside built key slot arrival
    unfold World.enter
    split <;> exact aside.of_same _ _ rfl rfl

end Factory

/-- Acquiring a client changes nothing else than building it does. -/
theorem changes_acquire (aside : World.Aside change) {backend : Backend β}
    (built : ∀ identity scope, Work.Changes change (backend.build identity scope))
    (identity : Identity) (scope : Scope) :
    Work.Changes change (acquire backend identity scope) := by
  unfold acquire acquireFrom
  split
  · exact .done _
  · refine .look aside.refl fun w => ?_
    split
    · exact .act (fun _ => aside.of_same _ _ rfl rfl) fun _ => .done _
    · refine .look aside.refl fun w => ?_
      refine (Work.Changes.step fun w => ?_).bind fun found => changes_visit aside built _ found
      unfold World.seek
      split <;> exact aside.of_same _ _ rfl rfl

end ClusterGraph
