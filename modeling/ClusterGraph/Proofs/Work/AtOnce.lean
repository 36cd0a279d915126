import ClusterGraph.Proofs.Work.Outcome
import Mathlib.Data.List.Range

/-!
# Work that does not wait

Work that ends at once gives its value in the state in which it is begun, whatever it is put under:
a limit does not touch it, and pieces of such work that run side by side simply run one after the
other, the left one first.

Pieces of work may also be taken in any other order (`Work.tryIn`); the values still stand in the
order of the pieces.
-/
namespace ClusterGraph
namespace Work

variable {σ τ α β γ ε : Type} {ends : α → σ → Prop} {w : Work σ α} {s : σ}

/-- Work that is begun in a state does not wait, and `ends` holds of its value and of the state in
which it ends. -/
abbrev AtOnce (ends : α → σ → Prop) (w : Work σ α) (s : σ) : Prop := Leads (fun _ => False) ends w s

theorem AtOnce.onAbandon (atOnce : AtOnce ends w s) (undo : σ → σ) :
    AtOnce ends (w.onAbandon undo) s := by
  induction atOnce with
  | done value => exact .done value
  | act _ ih => exact .act ih
  | wait state => exact state.elim

theorem AtOnce.recheck (atOnce : AtOnce ends w s) : AtOnce ends w.recheck s := by
  cases atOnce with
  | done value => exact .done value
  | act rest => exact .act rest
  | wait state => exact state.elim

/-- There is nothing to undo where work does not wait. -/
theorem AtOnce.undo (atOnce : AtOnce ends w s) : w.undo s = s := by
  cases atOnce with
  | done value => rfl
  | act rest => rfl
  | wait state => exact state.elim

/-- Two pieces of work by turns are one after the other, unless the value of the left one stops the
pair. -/
theorem AtOnce.par {left : Work σ β} {right : Work σ γ} {endsLeft : β → σ → Prop}
    {stopLeft : β → Option α} {stopRight : γ → Option α} {combine : β → γ → α}
    (first : AtOnce endsLeft left s)
    (second : ∀ b t, endsLeft b t → stopLeft b = none ∧
      AtOnce (fun c => ends ((stopRight c).getD (combine b c))) right t) :
    AtOnce ends (par stopLeft stopRight combine left right) s := by
  induction first with
  | @done b t value =>
    obtain ⟨unstopped, rest⟩ := second b t value
    unfold Work.par
    rw [unstopped]
    exact rest.recheck.bind fun _ _ value => .done value
  | act _ ih => exact .act ih
  | wait state => exact state.elim

/-- Work on a part of a larger state. -/
theorem AtOnce.within (get : τ → σ) (put : σ → τ → τ) (got : ∀ s t, get (put s t) = s)
    (again : ∀ s s' t, put s' (put s t) = put s' t) (same : ∀ t, put (get t) t = t) {t : τ}
    (atOnce : AtOnce ends w (get t)) :
    AtOnce (fun a u => ∃ s, u = put s t ∧ ends a s) (w.within get put) t := by
  generalize part : get t = s at atOnce
  induction atOnce generalizing t with
  | @done a s value =>
    subst part
    exact .done ⟨get t, (same t).symm, value⟩
  | @act update next s _ ih =>
    subst part
    refine .act ((ih (got _ t)).mono ?_)
    rintro a u ⟨s, rfl, value⟩
    exact ⟨s, again _ _ t, value⟩
  | wait state => exact state.elim

/-- What ends at once ends in a run. -/
theorem AtOnce.run [Clocked σ] (atOnce : AtOnce ends w s) :
    ∃ a t, w.run s = (some a, t) ∧ ends a t := by
  have ended := Leads.run atOnce fun _ _ => id
  generalize w.run s = outcome at ended ⊢
  obtain ⟨answer, t⟩ := outcome
  cases answer with
  | some a => exact ⟨a, t, rfl, ended⟩
  | none => exact ended.elim

section Clock
variable [Clocked σ]

theorem AtOnce.sleep (s : σ) : AtOnce (fun _ t => t = s) (sleep 0) s := .act (.done rfl)

/-- Bounded work that has not been cancelled beforehand. -/
theorem AtOnce.bounded (atOnce : AtOnce ends w s) {cancelAt : Option Nat}
    (uncancelled : cancelled cancelAt s = false) (deadline : Nat) (onCancel onDeadline : α) :
    AtOnce ends (w.bounded cancelAt deadline onCancel onDeadline) s := by
  refine .act ?_
  rw [uncancelled]
  exact Leads.limited atOnce cancelAt deadline (fun _ => False.elim) fun _ => False.elim

end Clock

/-! ## In any order -/

/-- All values, or the first error, of pieces of work that are taken in an order: `turns` are their
positions. The values stand in the order of the pieces. -/
def tryIn (turns : List Nat) (ws : List (Work σ (Except ε α))) : Work σ (Except ε (List α)) :=
  (trySeq (turns.filterMap fun i => ws[i]?)).bind fun r => .done (r.map fun values =>
    (List.range ws.length).filterMap fun i => values[turns.idxOf i]?)

/-! The values of the pieces come back to their positions. -/

theorem filterMap_getElem?_range (items : List α) :
    ((List.range items.length).filterMap fun i => items[i]?) = items := by
  have all : (List.range items.length).map (fun i => items[i]?) = items.map some :=
    List.ext_getElem (by simp) (by simp)
  calc ((List.range items.length).filterMap fun i => items[i]?)
      = ((List.range items.length).map fun i => items[i]?).filterMap id := by
        rw [List.filterMap_map]
        rfl
    _ = items := by
        rw [all, List.filterMap_map]
        exact List.filterMap_some

theorem perm_filterMap_getElem? (items : List α) (turns : List Nat)
    (each_once : turns.Perm (List.range items.length)) :
    (turns.filterMap fun i => items[i]?).Perm items := by
  have taken := each_once.filterMap fun i => items[i]?
  rwa [filterMap_getElem?_range] at taken

/-- Where every turn takes something, turns and what they take stand side by side. -/
theorem getElem?_filterMap_of_isSome (take : Nat → Option α) (turns : List Nat)
    (takes : ∀ i ∈ turns, (take i).isSome = true) (k : Nat) :
    (turns.filterMap take)[k]? = turns[k]?.bind take := by
  induction turns generalizing k with
  | nil => rfl
  | cons i rest ih =>
    obtain ⟨a, taken⟩ := Option.isSome_iff_exists.mp (takes i List.mem_cons_self)
    rw [List.filterMap_cons_some taken]
    cases k with
    | zero => simp [taken]
    | succ k => exact ih (fun j member => takes j (List.mem_cons_of_mem i member)) k

theorem filterMap_getElem?_idxOf (items : List α) (turns : List Nat)
    (each_once : turns.Perm (List.range items.length)) :
    ((List.range items.length).filterMap fun i =>
      (turns.filterMap fun j => items[j]?)[turns.idxOf i]?) = items := by
  have takes : ∀ i ∈ turns, (items[i]?).isSome = true := by
    intro i member
    have bound := List.mem_range.mp (each_once.mem_iff.mp member)
    simp [bound]
  have back : ∀ i ∈ List.range items.length,
      (turns.filterMap fun j => items[j]?)[turns.idxOf i]? = items[i]? := by
    intro i member
    rw [getElem?_filterMap_of_isSome _ turns takes,
      List.getElem?_idxOf (each_once.mem_iff.mpr member)]
    rfl
  rw [List.filterMap_congr back, filterMap_getElem?_range]

end Work
end ClusterGraph
