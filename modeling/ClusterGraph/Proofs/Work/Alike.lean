import Mathlib.Data.List.Find
import ClusterGraph.Work.Deadline

/-!
# Work that goes alike

Two pieces of work, each over a state of its own, go alike if they wait side by side, for the same
timers, and end with values that match. What either side does at once is its own business: the
states have to match only where both wait and at the end. So a relation of states need not survive
the single steps of one side, as long as it is back at the next wait.

Limits keep work alike, since they only look at the clock where the work waits, and work that goes
alike gives matching answers when it is run.
-/
namespace ClusterGraph
namespace Work

variable {σ τ α β γ δ : Type} {states : σ → τ → Prop} {values : α → β → Prop}
  {values' : γ → δ → Prop} {left : Work σ α} {right : Work τ β} {s : σ} {t : τ}

/-- The left work in its state goes like the right work in its state. -/
inductive Alike (states : σ → τ → Prop) (values : α → β → Prop) :
    Work σ α → σ → Work τ β → τ → Prop where
  | done {a : α} {b : β} {s : σ} {t : τ} (value : values a b) (state : states s t) :
    Alike states values (.done a) s (.done b) t
  | left {update : σ → σ} {next : σ → Work σ α} {s : σ} {right : Work τ β} {t : τ}
      (rest : Alike states values (next s) (update s) right t) :
    Alike states values (.act update next) s right t
  | right {left : Work σ α} {s : σ} {update : τ → τ} {next : τ → Work τ β} {t : τ}
      (rest : Alike states values left s (next t) (update t)) :
    Alike states values left s (.act update next) t
  | wait {ready : σ → Bool} {ready' : τ → Bool} {abandon : σ → σ} {abandon' : τ → τ}
      {timers : List Nat} {next : Work σ α} {next' : Work τ β} {s : σ} {t : τ}
      (state : states s t) (wakes : ∀ s t, states s t → ready s = ready' t)
      (undone : ∀ s t, states s t → states (abandon s) (abandon' t))
      (rest : ∀ s t, states s t → Alike states values next s next' t) :
    Alike states values (.wait ready abandon timers next) s (.wait ready' abandon' timers next') t

/-- Both sides change their states, and then go alike. -/
theorem Alike.both {update : σ → σ} {next : σ → Work σ α} {update' : τ → τ} {next' : τ → Work τ β}
    (rest : Alike states values (next s) (update s) (next' t) (update' t)) :
    Alike states values (.act update next) s (.act update' next') t :=
  .left (.right rest)

/-- The left side changes its state and goes on with the value that this gives. -/
theorem Alike.step {f : σ → γ × σ} {k : γ → Work σ α}
    (rest : Alike states values (k (f s).1) (f s).2 right t) :
    Alike states values ((Work.step f).bind k) s right t := .left rest

/-- What goes on alike after work that goes alike. -/
theorem Alike.bind (first : Alike states values left s right t) {k : α → Work σ γ}
    {k' : β → Work τ δ}
    (rest : ∀ a b s t, values a b → states s t → Alike states values' (k a) s (k' b) t) :
    Alike states values' (left.bind k) s (right.bind k') t := by
  induction first with
  | done value state => exact rest _ _ _ _ value state
  | left _ ih => exact .left ih
  | right _ ih => exact .right ih
  | wait state wakes undone _ ih => exact .wait state wakes undone ih

/-- A relation of states whose clocks agree, and which holds on when the clocks move on. -/
structure Paced [Clocked σ] [Clocked τ] (states : σ → τ → Prop) : Prop where
  clock : ∀ s t, states s t → Clocked.now s = Clocked.now t
  moves : ∀ s t now, states s t → Clocked.now s ≤ now →
    states (Clocked.setNow now s) (Clocked.setNow now t)

section Clock
variable [Clocked σ] [Clocked τ]

theorem Paced.cancelled_eq (paced : Paced states) (cancelAt : Option Nat) (s : σ) (t : τ)
    (state : states s t) : cancelled cancelAt s = cancelled cancelAt t := by
  unfold cancelled
  rw [paced.clock s t state]

theorem Alike.sleep (paced : Paced states) (delay : Nat) (state : states s t) :
    Alike states Eq (Work.sleep delay) s (Work.sleep delay) t := by
  refine .both ?_
  rw [paced.clock s t state]
  split
  · exact .done rfl state
  · refine .wait state ?_ (fun _ _ state => state) fun _ _ state =>
      .done rfl state
    intro s t state
    rw [paced.clock s t state]

/-- Work that goes alike does so under a deadline. -/
theorem Alike.limited (paced : Paced states) (alike : Alike states values left s right t)
    (cancelAt : Option Nat) (deadline : Nat) {onCancel onDeadline : α} {onCancel' onDeadline' : β}
    (cancel : values onCancel onCancel') (late : values onDeadline onDeadline') :
    Alike states values (left.limited cancelAt deadline onCancel onDeadline) s
      (right.limited cancelAt deadline onCancel' onDeadline') t := by
  induction alike with
  | done value state => exact .done value state
  | left _ ih => exact .left ih
  | right _ ih => exact .right ih
  | @wait ready ready' abandon abandon' timers next next' s t state wakes undone _ ih =>
    refine .both ?_
    rw [paced.clock s t state]
    split
    · exact .both (.done late (undone s t state))
    · refine .wait state ?_ undone ?_
      · intro s t state
        rw [paced.cancelled_eq cancelAt s t state, wakes s t state, paced.clock s t state]
      · intro s t state
        refine .both ?_
        rw [paced.cancelled_eq cancelAt s t state, wakes s t state]
        split
        · exact .both (.done cancel (undone s t state))
        · split
          · exact ih s t state
          · exact .both (.done late (undone s t state))

/-- Work that goes alike does so when it is bounded, if the bounds are. -/
theorem Alike.bounded (paced : Paced states) (state : states s t)
    (alike : Alike states values left s right t) (cancelAt : Option Nat) (deadline : Nat)
    {onCancel onDeadline : α} {onCancel' onDeadline' : β} (cancel : values onCancel onCancel')
    (late : values onDeadline onDeadline') :
    Alike states values (left.bounded cancelAt deadline onCancel onDeadline) s
      (right.bounded cancelAt deadline onCancel' onDeadline') t := by
  refine .both ?_
  rw [paced.cancelled_eq cancelAt s t state]
  split
  · exact .done cancel state
  · exact alike.limited paced cancelAt deadline cancel late

/-- The first timer that wakes the one wakes the other. -/
theorem Paced.wake (paced : Paced states) (timers : List Nat) (ready : σ → Bool) (ready' : τ → Bool)
    (wakes : ∀ s t, states s t → ready s = ready' t) (s : σ) (t : τ) (state : states s t) :
    ((upcoming timers s).find? fun now => ready (Clocked.setNow now s)) =
      (upcoming timers t).find? fun now => ready' (Clocked.setNow now t) := by
  have same : upcoming timers s = upcoming timers t := by
    unfold upcoming
    rw [paced.clock s t state]
  rw [← same]
  refine List.find?_congr ?_
  intro now member
  have ahead := (List.mem_filter.mp (List.mem_mergeSort.mp member)).2
  exact wakes _ _ (paced.moves s t now state (Nat.le_of_lt (of_decide_eq_true ahead)))

/-- Work that goes alike gives answers that match, or none on either side, and leaves states that
match. -/
theorem Alike.run (paced : Paced states) (alike : Alike states values left s right t) :
    Option.Rel values (left.run s).1 (right.run t).1 ∧ states (left.run s).2 (right.run t).2 := by
  induction alike with
  | done value state => exact ⟨.some value, state⟩
  | left _ ih => exact ih
  | right _ ih => exact ih
  | @wait ready ready' abandon abandon' timers next next' s t state wakes undone _ ih =>
    simp only [Work.run, wakes s t state, paced.wake timers ready ready' wakes s t state]
    split
    · exact ih s t state
    · split
      · next now woken =>
        have member := List.mem_mergeSort.mp (List.mem_of_find?_eq_some woken)
        have ahead := of_decide_eq_true (List.mem_filter.mp member).2
        refine ih _ _ (paced.moves s t now state ?_)
        rw [paced.clock s t state]
        exact Nat.le_of_lt ahead
      · exact ⟨.none, state⟩

end Clock
end Work
end ClusterGraph
