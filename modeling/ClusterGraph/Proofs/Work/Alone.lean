import ClusterGraph.Proofs.Work.Timely

/-!
# Work that runs alone

While work waits and nobody else is about, only the clock changes. So what it finds when it goes on,
and what it undoes when it is abandoned, is the state in which it began to wait, at a later time.
That is known more closely than where others act as well (`Work.Leads`): the state that abandoned
work leaves may differ from every state in which it waits.
-/
namespace ClusterGraph
namespace Work
variable {σ α β : Type} [Clocked σ]

/-- One state is another at a time that is not before it. -/
def Later (s t : σ) : Prop := ∃ now, Clocked.now s ≤ now ∧ t = Clocked.setNow now s

/-- Work that is begun in a state and runs alone: `left` holds of the states that it leaves if it is
abandoned where it waits, and `ends` of its value and of the state in which it ends. -/
inductive Alone (left : σ → Prop) (ends : α → σ → Prop) : Work σ α → σ → Prop where
  | done {a : α} {s : σ} (value : ends a s) : Alone left ends (.done a) s
  | act {update : σ → σ} {next : σ → Work σ α} {s : σ}
      (rest : Alone left ends (next s) (update s)) : Alone left ends (.act update next) s
  | wait {ready : σ → Bool} {abandon : σ → σ} {timers : List Nat} {next : Work σ α} {s : σ}
      (undone : ∀ t, Later s t → left (abandon t))
      (rest : ∀ t, Later s t → ready t = true → Alone left ends next t) :
      Alone left ends (.wait ready abandon timers next) s

section Rules
variable {left left' : σ → Prop} {ends ends' : α → σ → Prop} {w : Work σ α} {s t : σ}

theorem Alone.bind (first : Alone left ends w s) {k : α → Work σ β} {ends' : β → σ → Prop}
    (rest : ∀ a t, ends a t → Alone left ends' (k a) t) : Alone left ends' (w.bind k) s := by
  induction first with
  | done value => exact rest _ _ value
  | act _ ih => exact .act ih
  | wait undone _ ih => exact .wait undone ih

theorem Alone.mono (alone : Alone left ends w s) (abandoned : ∀ t, left t → left' t)
    (ended : ∀ a t, ends a t → ends' a t) : Alone left' ends' w s := by
  induction alone with
  | done value => exact .done (ended _ _ value)
  | act _ ih => exact .act ih
  | wait undone _ ih => exact .wait (fun t later => abandoned _ (undone t later)) ih

/-- What is undone last is done to what the work itself leaves. -/
theorem Alone.onAbandon (alone : Alone left ends w s) {undo : σ → σ}
    (last : ∀ t, left t → left' (undo t)) : Alone left' ends (w.onAbandon undo) s := by
  induction alone with
  | done value => exact .done value
  | act _ ih => exact .act ih
  | wait undone _ ih => exact .wait (fun t later => last _ (undone t later)) ih

variable [LawfulClock σ]

theorem Later.refl (s : σ) : Later s s :=
  ⟨Clocked.now s, Nat.le_refl _, (LawfulClock.setNow_now s).symm⟩

/-- A pause leaves the state as it is when the pause is over. -/
theorem alone_sleep (delay : Nat) (s : σ) :
    Alone (Later s) (fun _ t => Later s t ∧ Clocked.now s + delay ≤ Clocked.now t) (sleep delay)
      s := by
  apply Alone.act
  by_cases none : delay = 0
  · subst none
    exact .done ⟨.refl s, Nat.le_refl _⟩
  · simp only [if_neg none]
    refine .wait (fun _ later => later) fun t later woken => .done ⟨later, ?_⟩
    exact of_decide_eq_true woken

/-- Work under a deadline ends by itself, or is abandoned where it waits. -/
theorem Alone.limited (alone : Alone left ends w s) (cancelAt : Option Nat) (deadline : Nat)
    {onCancel onDeadline : α} (ended : ∀ a t, ends a t → ends' a t)
    (cancel : ∀ t, left t → ends' onCancel t) (late : ∀ t, left t → ends' onDeadline t) :
    Alone left ends' (w.limited cancelAt deadline onCancel onDeadline) s := by
  induction alone with
  | done value => exact .done (ended _ _ value)
  | act _ ih => exact .act ih
  | @wait ready abandon timers next s undone _ ih =>
    apply Alone.act
    by_cases past : deadline ≤ Clocked.now s
    · simp only [if_pos past]
      exact .act (.done (late _ (undone s (.refl s))))
    · simp only [if_neg past]
      refine .wait undone fun t later _ => .act ?_
      split
      · exact .act (.done (cancel _ (undone t later)))
      · split
        · next woken => exact ih t later woken
        · exact .act (.done (late _ (undone t later)))

/-- What work that runs alone gives and leaves, if it comes to its end. -/
theorem Alone.run (alone : Alone left ends w s) {a : α} (ran : w.run s = (some a, t)) :
    ends a t := by
  induction alone with
  | done value =>
    cases ran
    exact value
  | act _ ih => exact ih ran
  | @wait ready abandon timers next s _ _ ih =>
    unfold Work.run at ran
    by_cases woken : ready s = true
    · rw [if_pos woken] at ran
      exact ih s (.refl s) woken ran
    · rw [if_neg woken] at ran
      split at ran
      · next now found =>
        have ahead := (mem_upcoming_iff.mp (List.mem_of_find?_eq_some found)).2
        have rings := List.find?_some found
        exact ih _ ⟨now, Nat.le_of_lt ahead, rfl⟩ rings ran
      · cases ran

end Rules

/-! ## The next timer -/

/-- The first timer at which waiting work may go on, told without putting the timers in order. -/
def wakesAt? (ready : σ → Bool) (timers : List Nat) (s : σ) : Option Nat :=
  (timers.filter fun t => Clocked.now s < t && ready (Clocked.setNow t s)).min?

theorem find?_upcoming (ready : σ → Bool) (timers : List Nat) (s : σ) :
    ((upcoming timers s).find? fun t => ready (Clocked.setNow t s)) = wakesAt? ready timers s := by
  have mem_iff (t : Nat) :
      (t ∈ timers.filter fun t => Clocked.now s < t && ready (Clocked.setNow t s)) ↔
        t ∈ upcoming timers s ∧ ready (Clocked.setNow t s) = true := by
    rw [mem_upcoming_iff, List.mem_filter, Bool.and_eq_true, decide_eq_true_eq, and_assoc]
  cases found : (upcoming timers s).find? fun t => ready (Clocked.setNow t s) with
  | none =>
    have silent := List.find?_eq_none.mp found
    refine (List.min?_eq_none_iff.mpr (List.eq_nil_iff_forall_not_mem.mpr ?_)).symm
    intro t member
    obtain ⟨coming, rings⟩ := (mem_iff t).mp member
    exact silent t coming rings
  | some t =>
    have rings := List.find?_some found
    refine (List.min?_eq_some_iff.mpr ⟨?_, ?_⟩).symm
    · exact (mem_iff t).mpr ⟨List.mem_of_find?_eq_some found, rings⟩
    · intro due member
      obtain ⟨coming, rings⟩ := (mem_iff due).mp member
      obtain ⟨timer, ahead⟩ := mem_upcoming_iff.mp coming
      exact le_of_find?_upcoming found timer ahead rings

def runBy : Work σ α → σ → Option α × σ
  | done a, s => (some a, s)
  | act update next, s => (next s).runBy (update s)
  | wait ready _ timers next, s =>
    if ready s then next.runBy s
    else
      match wakesAt? ready timers s with
      | some t => next.runBy (Clocked.setNow t s)
      | none => (none, s)

theorem run_eq_runBy (w : Work σ α) (s : σ) : w.run s = w.runBy s := by
  induction w generalizing s with
  | done a => rfl
  | act update next ih => exact ih s (update s)
  | wait ready abandon timers next ih =>
    unfold run runBy
    rw [find?_upcoming]
    by_cases woken : ready s = true
    · rw [if_pos woken, if_pos woken]
      exact ih s
    · rw [if_neg woken, if_neg woken]
      cases wakesAt? ready timers s with
      | some t => exact ih _
      | none => rfl

end Work
end ClusterGraph
