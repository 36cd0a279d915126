import ClusterGraph.Proofs.Work.Timely

/-!
# Work that upholds an invariant

Work upholds what holds of the state if each of its changes does, from every state in which it
holds, whatever others have done to the state in between; so do the changes that are made where the
work is abandoned. Unlike `Work.Changes`, this says nothing of what the work would do in other
states. It is kept when pieces of work run one after another, side by side or under a deadline.

An invariant may speak of the time. It holds of every state of a run, if it does not mind the times
to which the clock moves there (`Work.Upholds.course`).
-/
namespace ClusterGraph
namespace Work
variable {σ τ α β γ ε : Type} {inv : σ → Prop} {w : Work σ α}

/-- Every change that the work makes in a state of which the invariant holds keeps the invariant,
also when the work is abandoned. -/
inductive Upholds (inv : σ → Prop) : Work σ α → Prop where
  | done (a : α) : Upholds inv (.done a)
  | act {update : σ → σ} {next : σ → Work σ α} (made : ∀ s, inv s → inv (update s))
      (rest : ∀ s, inv s → Upholds inv (next s)) : Upholds inv (.act update next)
  | wait {ready : σ → Bool} {abandon : σ → σ} {timers : List Nat} {next : Work σ α}
      (undone : ∀ s, inv s → inv (abandon s)) (rest : Upholds inv next) :
      Upholds inv (.wait ready abandon timers next)

/-- Work whose changes are all of a kind that keeps the invariant. -/
theorem Changes.upholds {change : σ → σ → Prop} (changes : Changes change w)
    (kept : ∀ s t, change s t → inv s → inv t) : Upholds inv w := by
  induction changes with
  | done a => exact .done a
  | act made _ ih => exact .act (fun s => kept _ _ (made s)) fun s _ => ih s
  | wait undone _ ih => exact .wait (fun s => kept _ _ (undone s)) ih

namespace Upholds

theorem look {next : σ → Work σ α} (rest : ∀ s, inv s → Upholds inv (next s)) :
    Upholds inv (Work.look next) :=
  .act (fun _ holds => holds) rest

theorem step {f : σ → α × σ} (made : ∀ s, inv s → inv (f s).2) : Upholds inv (Work.step f) :=
  .act made fun _ _ => .done _

theorem stuck (a : α) : Upholds inv (Work.stuck a) := .wait (fun _ holds => holds) (.done a)

theorem bind (first : Upholds inv w) {k : α → Work σ β} (rest : ∀ a, Upholds inv (k a)) :
    Upholds inv (w.bind k) := by
  induction first with
  | done a => exact rest a
  | act made _ ih => exact .act made ih
  | wait undone _ ih => exact .wait undone ih

theorem onAbandon (upholds : Upholds inv w) {undo : σ → σ} (last : ∀ s, inv s → inv (undo s)) :
    Upholds inv (w.onAbandon undo) := by
  induction upholds with
  | done a => exact .done a
  | act made _ ih => exact .act made ih
  | wait undone _ ih => exact .wait (fun s holds => last _ (undone s holds)) ih

theorem recheck (upholds : Upholds inv w) : Upholds inv w.recheck := by
  cases upholds with
  | done a => exact .done a
  | act made rest => exact .act made rest
  | wait undone rest =>
    refine .look fun s _ => ?_
    split
    · exact rest
    · exact .wait undone rest

theorem undo (upholds : Upholds inv w) (s : σ) (holds : inv s) : inv (w.undo s) := by
  cases upholds with
  | done a => exact holds
  | act made rest => exact holds
  | wait undone rest => exact undone s holds

/-- Work on a part of the state that is put back after every change. -/
theorem within {get : τ → σ} {put : σ → τ → τ} (back : ∀ s t, get (put s t) = s)
    (upholds : Upholds inv w) : Upholds (fun t => inv (get t)) (w.within get put) := by
  have kept {update : σ → σ} (made : ∀ s, inv s → inv (update s)) (t : τ) (holds : inv (get t)) :
      inv (get (put (update (get t)) t)) := by
    rw [back]
    exact made (get t) holds
  induction upholds with
  | done a => exact .done a
  | act made _ ih => exact .act (kept made) fun t holds => ih (get t) holds
  | wait undone _ ih => exact .wait (kept undone) ih

/-! ## Side by side -/

section Pairs
variable {stopLeft : α → Option γ} {stopRight : β → Option γ} {combine : α → β → γ}

theorem parRight {right : Work σ β} (upholds : Upholds inv right) {left : Work σ β → Work σ γ}
    {ready : σ → Bool} {abandon : σ → σ} {timers : List Nat}
    (undone : ∀ s, inv s → inv (abandon s))
    (onward : ∀ right', Upholds inv right' → Upholds inv (left right')) :
    Upholds inv (right.parRight stopRight left ready abandon timers) := by
  induction upholds with
  | done b =>
    unfold Work.parRight
    split
    · exact .act undone fun _ _ => .done _
    · exact .wait undone (onward _ (.done b))
  | act made _ ih => exact .act made ih
  | wait undone' rest ih =>
    refine .wait (fun s holds => undone' _ (undone s holds)) (.look fun s _ => ?_)
    split
    · exact onward _ (.wait undone' rest)
    · exact ih

theorem par {right : Work σ β} (first : Upholds inv w) (second : Upholds inv right) :
    Upholds inv (Work.par stopLeft stopRight combine w right) := by
  induction first generalizing right with
  | done a =>
    unfold Work.par
    split
    · exact .act second.undo fun _ _ => .done _
    · exact second.recheck.bind fun _ => .done _
  | act made _ ih => exact .act made fun s holds => ih s holds second
  | wait undone _ ih => exact second.recheck.parRight undone fun _ upholds => ih upholds

theorem tryAll {works : List (Work σ (Except ε α))} (each : ∀ w ∈ works, Upholds inv w) :
    Upholds inv (Work.tryAll works) := by
  induction works with
  | nil => exact .done _
  | cons w rest ih =>
    have later := ih fun v member => each v (List.mem_cons_of_mem w member)
    exact (each w List.mem_cons_self).par later

end Pairs

/-! ## Under a deadline -/

section Clock
variable [Clocked σ]

theorem sleep (delay : Nat) : Upholds inv (Work.sleep delay) := by
  refine .look fun s _ => ?_
  split
  · exact .done ()
  · exact .wait (fun _ holds => holds) (.done ())

theorem limited (upholds : Upholds inv w) (cancelAt : Option Nat) (deadline : Nat)
    (onCancel onDeadline : α) : Upholds inv (w.limited cancelAt deadline onCancel onDeadline) := by
  induction upholds with
  | done a => exact .done a
  | act made _ ih => exact .act made ih
  | wait undone _ ih =>
    refine .look fun s _ => ?_
    split
    · exact .act undone fun _ _ => .done _
    · refine .wait undone (.look fun s _ => ?_)
      split
      · exact .act undone fun _ _ => .done _
      · split
        · exact ih
        · exact .act undone fun _ _ => .done _

theorem bounded (upholds : Upholds inv w) (cancelAt : Option Nat) (deadline : Nat)
    (onCancel onDeadline : α) : Upholds inv (w.bounded cancelAt deadline onCancel onDeadline) := by
  refine .look fun s _ => ?_
  split
  · exact .done _
  · exact upholds.limited cancelAt deadline onCancel onDeadline

/-! ## Runs -/

/-- An invariant that work upholds holds of all states that its run goes through, if the clock only
moves to times that the invariant does not mind. -/
theorem course (upholds : Upholds inv w) {s : σ} (holds : inv s)
    (moves : ∀ u t, inv u → Clocked.setNow t u ∈ w.course s → inv (Clocked.setNow t u)) :
    ∀ u ∈ w.course s, inv u := by
  induction upholds generalizing s with
  | done a =>
    intro u member
    rw [List.mem_singleton.mp member]
    exact holds
  | act made _ ih =>
    intro u member
    rcases List.mem_cons.mp member with rfl | later
    · exact holds
    · exact ih s holds (made s holds)
        (fun u t before there => moves u t before (List.mem_cons_of_mem _ there)) u later
  | wait undone _ ih =>
    intro u member
    unfold Work.course at moves
    rcases List.mem_cons.mp member with rfl | later
    · exact holds
    have moves := fun u t before there => moves u t before (List.mem_cons_of_mem _ there)
    split at later
    · next at_once =>
      rw [if_pos at_once] at moves
      exact ih holds moves u later
    · next waiting =>
      rw [if_neg waiting] at moves
      split at later
      · next t found =>
        rw [found] at moves
        exact ih (moves s t holds (mem_course_self _ _)) moves u later
      · cases later

end Clock
end Upholds
end Work
end ClusterGraph
