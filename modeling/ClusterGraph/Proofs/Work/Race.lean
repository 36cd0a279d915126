import ClusterGraph.Proofs.Work.Alone

/-!
# The race between work, its deadline and its cancellation

Bounded work that runs alone has three rivals: its own end, the deadline and the cancellation. If
the work waits for nothing but its own timers, the first of them settles what comes of it
(`Work.Timed.run_bounded`): work that ends in time ends as if it was not bounded, an end exactly at
the deadline included; otherwise the work is abandoned at the moment at which the first rival comes.

Abandoned work has made the changes that it had to make by then, has undone what it left open, and
takes no further step. `Work.runUntil` is a run that is abandoned.
-/
namespace ClusterGraph

/-- The rivals by the time after which each of them comes. The work may never end, and it may never
be cancelled. -/
structure Race where
  finish : Option Nat
  cancel : Option Nat
  budget : Nat
  deriving DecidableEq, Repr

namespace Race

/-- What comes of bounded work. -/
inductive Verdict where
  | unbegun
  | finished
  | cancelled
  | late
  deriving DecidableEq, Repr

/-- The rival that comes first. Work that ends exactly at the deadline ends in time. -/
def verdict (race : Race) : Verdict :=
  if race.cancel = some 0 then .unbegun
  else if ∃ e ∈ race.finish, e ≤ race.budget ∧ ∀ c ∈ race.cancel, e < c then .finished
  else if ∃ c ∈ race.cancel, c < race.budget ∧ ∀ e ∈ race.finish, c < e then .cancelled
  else .late

/-- A cancellation that does not come beforehand comes together with no other rival. -/
def Untied (race : Race) : Prop :=
  ∀ c ∈ race.cancel, c ≠ 0 → race.finish ≠ some c ∧ race.budget ≠ c

def length (race : Race) : Nat :=
  match race.verdict with
  | .unbegun => 0
  | .finished => race.finish.getD 0
  | .cancelled => race.cancel.getD 0
  | .late => race.budget

theorem verdict_eq_unbegun_iff (race : Race) : race.verdict = .unbegun ↔ race.cancel = some 0 := by
  unfold verdict
  by_cases beforehand : race.cancel = some 0
  · simp [beforehand]
  · rw [if_neg beforehand]
    refine iff_of_false (fun unbegun => ?_) beforehand
    split at unbegun
    · cases unbegun
    · split at unbegun <;> cases unbegun

end Race

namespace Work
variable {σ α β : Type} [Clocked σ]

/-! ## Work that waits for its own timers -/

/-- Work that runs alone, takes time only where it waits, and waits for its own timers: a wait is
over from a timer on that is still to come, or never. -/
inductive Timed : Work σ α → σ → Prop where
  | done (a : α) (s : σ) : Timed (.done a) s
  | act {update : σ → σ} {next : σ → Work σ α} {s : σ} (made : KeepsTime s (update s))
      (rest : Timed (next s) (update s)) : Timed (.act update next) s
  | wait {ready : σ → Bool} {abandon : σ → σ} {timers : List Nat} {next : Work σ α} {s : σ}
      (due : Option Nat) (ahead : ∀ t ∈ due, t ∈ timers ∧ Clocked.now s < t)
      (wakes : ∀ t, ready (Clocked.setNow t s) = true ↔ ∃ d ∈ due, d ≤ t)
      (undone : ∀ t, KeepsTime t (abandon t))
      (rest : ∀ t ∈ due, Timed next (Clocked.setNow t s)) :
      Timed (.wait ready abandon timers next) s

/-- How long a run of work alone takes, if it comes to its end. -/
def takes? (w : Work σ α) (s : σ) : Option Nat :=
  match w.run s with
  | (some _, t) => some (Clocked.now t - Clocked.now s)
  | (none, _) => none

def race (w : Work σ α) (cancelAt : Option Nat) (deadline : Nat) (s : σ) : Race :=
  ⟨w.takes? s, cancelAt.map (· - Clocked.now s), deadline - Clocked.now s⟩

/-- Work that may be cancelled goes on at a time. -/
def MayGoOn (cancelAt : Option Nat) (last t : Nat) : Prop := t ≤ last ∧ ∀ c ∈ cancelAt, t < c

instance (cancelAt : Option Nat) (last t : Nat) : Decidable (MayGoOn cancelAt last t) :=
  inferInstanceAs (Decidable (_ ∧ _))

/-- The moment at which work is abandoned: the last one, or that of the cancellation. -/
def stopsAt (cancelAt : Option Nat) (last : Nat) : Nat := cancelAt.elim last (min last)

theorem cancelled_iff {cancelAt : Option Nat} {s : σ} :
    cancelled cancelAt s = true ↔ ∃ c ∈ cancelAt, c ≤ Clocked.now s := by
  cases cancelAt with
  | none => simp [cancelled]
  | some c => simp [cancelled]

/-- A run of work alone that is abandoned when its last moment is over or when it is cancelled,
unless it has come to its end. -/
def runUntil (cancelAt : Option Nat) (last : Nat) : Work σ α → σ → Option α × σ
  | done a, s => (some a, s)
  | act update next, s => (next s).runUntil cancelAt last (update s)
  | wait ready abandon timers next, s =>
    match (wakesAt? ready timers s).filter (MayGoOn cancelAt last) with
    | some t => next.runUntil cancelAt last (Clocked.setNow t s)
    | none => (none, abandon (Clocked.setNow (stopsAt cancelAt last) s))

theorem sleep_ahead {delay : Nat} (some_time : delay ≠ 0) (s : σ) :
    ∀ t ∈ some (Clocked.now s + delay), t ∈ [Clocked.now s + delay] ∧ Clocked.now s < t := by
  rintro t ⟨⟩
  exact ⟨List.mem_singleton_self _, by omega⟩

section Waiting
variable {ready : σ → Bool} {timers : List Nat} {due : Option Nat} {s : σ}

/-- Waiting work wakes when it is due. -/
theorem wakesAt?_of_wakes (ahead : ∀ t ∈ due, t ∈ timers ∧ Clocked.now s < t)
    (wakes : ∀ t, ready (Clocked.setNow t s) = true ↔ ∃ d ∈ due, d ≤ t) :
    wakesAt? ready timers s = due := by
  cases due with
  | none => simp [wakesAt?, wakes]
  | some moment =>
    obtain ⟨timer, later⟩ := ahead moment rfl
    rw [← find?_upcoming]
    refine find?_upcoming_eq timer later ((wakes moment).mpr ⟨moment, rfl, Nat.le_refl _⟩) ?_
    intro t early
    refine eq_false_of_ne_true fun woken => ?_
    obtain ⟨_, ⟨⟩, reached⟩ := (wakes t).mp woken
    exact Nat.not_le_of_lt early reached

variable [LawfulClock σ]

/-- Work does not go on where it waits for a time to come. -/
theorem not_ready_of_wakes (ahead : ∀ t ∈ due, t ∈ timers ∧ Clocked.now s < t)
    (wakes : ∀ t, ready (Clocked.setNow t s) = true ↔ ∃ d ∈ due, d ≤ t) : ready s = false := by
  refine eq_false_of_ne_true fun woken => ?_
  rw [← LawfulClock.setNow_now s] at woken
  obtain ⟨d, member, reached⟩ := (wakes _).mp woken
  exact Nat.not_le_of_lt (ahead d member).2 reached

/-- A run goes on when the work is due. -/
theorem run_of_wakes (ahead : ∀ t ∈ due, t ∈ timers ∧ Clocked.now s < t)
    (wakes : ∀ t, ready (Clocked.setNow t s) = true ↔ ∃ d ∈ due, d ≤ t) (abandon : σ → σ)
    (next : Work σ α) :
    (wait ready abandon timers next).run s =
      due.elim (none, s) fun t => next.run (Clocked.setNow t s) := by
  rw [run, if_neg (Bool.eq_false_iff.mp (not_ready_of_wakes ahead wakes)), find?_upcoming,
    wakesAt?_of_wakes ahead wakes]
  cases due <;> rfl

end Waiting

section Rules
variable [LawfulClock σ] {w : Work σ α} {s t : σ} {a : α}

theorem Timed.bind (first : Timed w s) {k : α → Work σ β}
    (rest : ∀ a t, w.run s = (some a, t) → Timed (k a) t) : Timed (w.bind k) s := by
  induction first with
  | done a s => exact rest a s rfl
  | act made _ ih => exact .act made (ih rest)
  | wait due ahead wakes undone _ ih =>
    refine .wait due ahead wakes undone fun t member => ih t member fun a u ran => ?_
    refine rest a u ?_
    rw [run_of_wakes ahead wakes, member]
    exact ran

theorem sleep_wakes (delay : Nat) (s : σ) (t : Nat) :
    decide (Clocked.now s + delay ≤ Clocked.now (Clocked.setNow t s)) = true ↔
      ∃ d ∈ some (Clocked.now s + delay), d ≤ t := by
  simp [LawfulClock.now_setNow]

theorem timed_sleep (delay : Nat) (s : σ) : Timed (sleep delay) s := by
  refine .act rfl ?_
  by_cases none : delay = 0
  · rw [if_pos none]
    exact .done () _
  · rw [if_neg none]
    exact .wait _ (sleep_ahead none s) (sleep_wakes delay s) (fun _ => rfl) fun t _ => .done () _

/-- A run of work does not end before it is begun. -/
theorem Timed.now_le (timed : Timed w s) (ran : w.run s = (some a, t)) :
    Clocked.now s ≤ Clocked.now t := by
  induction timed with
  | done a s =>
    cases ran
    exact Nat.le_refl _
  | act made _ ih => exact made ▸ ih ran
  | wait due ahead wakes _ _ ih =>
    rw [run_of_wakes ahead wakes] at ran
    cases due with
    | none => cases ran
    | some moment =>
      have later := (ahead moment rfl).2
      have after := ih moment rfl ran
      rw [LawfulClock.now_setNow] at after
      omega

end Rules

/-! ## Runs that are abandoned -/

section Abandoned
variable [LawfulClock σ] {w : Work σ α} {s t : σ} {a : α} {cancelAt : Option Nat} {last : Nat}

/-- What goes on at a time goes on before. -/
theorem MayGoOn.before {t t' : Nat} (may : MayGoOn cancelAt last t') (early : t ≤ t') :
    MayGoOn cancelAt last t :=
  ⟨Nat.le_trans early may.1, fun c given => Nat.lt_of_le_of_lt early (may.2 c given)⟩

/-- Work that ends in time is not abandoned. -/
theorem Timed.runUntil_of_finished (timed : Timed w s) (ran : w.run s = (some a, t))
    (inTime : MayGoOn cancelAt last (Clocked.now t)) :
    w.runUntil cancelAt last s = (some a, t) := by
  induction timed with
  | done a s => exact ran
  | act _ _ ih => exact ih ran
  | wait due ahead wakes _ rest ih =>
    rw [run_of_wakes ahead wakes] at ran
    cases due with
    | none => cases ran
    | some moment =>
      have after := (rest moment rfl).now_le ran
      rw [LawfulClock.now_setNow] at after
      unfold runUntil
      rw [wakesAt?_of_wakes ahead wakes]
      simp only [Option.filter, decide_eq_true (inTime.before after), if_true]
      exact ih moment rfl ran

/-- Work that does not end in time is abandoned at its last moment. -/
theorem Timed.runUntil_of_unfinished (timed : Timed w s)
    (begun : MayGoOn cancelAt last (Clocked.now s))
    (unfinished : ∀ a t, w.run s = (some a, t) → ¬ MayGoOn cancelAt last (Clocked.now t)) :
    (w.runUntil cancelAt last s).1 = none ∧
      Clocked.now (w.runUntil cancelAt last s).2 = stopsAt cancelAt last := by
  induction timed with
  | done a s => exact absurd begun (unfinished a s rfl)
  | act made _ ih => exact ih (made ▸ begun) unfinished
  | @wait ready abandon timers next s due ahead wakes undone _ ih =>
    have abandoned : Clocked.now (abandon (Clocked.setNow (stopsAt cancelAt last) s)) =
        stopsAt cancelAt last := (undone _).trans (LawfulClock.now_setNow _ _)
    unfold runUntil
    rw [wakesAt?_of_wakes ahead wakes]
    cases due with
    | none => exact ⟨rfl, abandoned⟩
    | some moment =>
      by_cases may : MayGoOn cancelAt last moment
      · simp only [Option.filter, decide_eq_true may, if_true]
        refine ih moment rfl (by rwa [LawfulClock.now_setNow]) fun a t ran => ?_
        refine unfinished a t ?_
        rw [run_of_wakes ahead wakes]
        exact ran
      · simp only [Option.filter, decide_eq_false may, Bool.false_eq_true, if_false]
        exact ⟨trivial, abandoned⟩

/-- A pause that may not end is abandoned. -/
theorem runUntil_sleep {delay : Nat} (begun : MayGoOn cancelAt last (Clocked.now s))
    (stopped : ¬ MayGoOn cancelAt last (Clocked.now s + delay)) (k : Unit → Work σ α) :
    ((sleep delay).bind k).runUntil cancelAt last s =
      (none, Clocked.setNow (stopsAt cancelAt last) s) := by
  have some_time : delay ≠ 0 := fun none => stopped (by rwa [none])
  rw [sleep, look, Work.bind, runUntil, if_neg some_time, Work.bind, runUntil, id,
    wakesAt?_of_wakes (sleep_ahead some_time s) (sleep_wakes delay s)]
  simp only [Option.filter, decide_eq_false stopped, Bool.false_eq_true, if_false, id]

/-! ## Under a deadline -/

theorem cancelled_setNow_iff (cancelAt : Option Nat) (t : Nat) (s : σ) :
    cancelled cancelAt (Clocked.setNow t s) = true ↔ ∃ c ∈ cancelAt, c ≤ t := by
  rw [cancelled_iff, LawfulClock.now_setNow]

theorem not_mayGoOn_iff {t : Nat} :
    ¬ MayGoOn cancelAt last t ↔ (∃ c ∈ cancelAt, c ≤ t) ∨ last < t := by
  unfold MayGoOn
  cases cancelAt with
  | none => simp
  | some c =>
    simp only [Option.mem_def, Option.some.injEq, forall_eq', exists_eq_left']
    omega

theorem stopsAt_le_iff {t : Nat} :
    stopsAt cancelAt last ≤ t ↔ (∃ c ∈ cancelAt, c ≤ t) ∨ last ≤ t := by
  cases cancelAt with
  | none => simp [stopsAt]
  | some c =>
    simp only [stopsAt, Option.elim, Option.mem_def, Option.some.injEq, exists_eq_left']
    omega

/-- Work is cancelled when it is abandoned, unless its last moment comes first. -/
theorem cancelled_stopsAt_iff :
    (∃ c ∈ cancelAt, c ≤ stopsAt cancelAt last) ↔ ∃ c ∈ cancelAt, c ≤ last := by
  cases cancelAt with
  | none => simp
  | some c =>
    simp only [stopsAt, Option.elim, Option.mem_def, Option.some.injEq, exists_eq_left']
    omega

/-- When waiting work wakes under a deadline: when it is due, if it may go on then, and else when it
is abandoned. -/
def wakesUnder (cancelAt : Option Nat) (last : Nat) (due : Option Nat) : Nat :=
  (due.filter (MayGoOn cancelAt last)).getD (stopsAt cancelAt last)

theorem wakesUnder_of_some {due : Option Nat} {t : Nat}
    (given : due.filter (MayGoOn cancelAt last) = some t) : wakesUnder cancelAt last due = t := by
  rw [wakesUnder, given, Option.getD_some]

theorem wakesUnder_of_none {due : Option Nat} (given : due.filter (MayGoOn cancelAt last) = none) :
    wakesUnder cancelAt last due = stopsAt cancelAt last := by
  rw [wakesUnder, given, Option.getD_none]

theorem not_mayGoOn_of_filter {due : Option Nat} (given : due.filter (MayGoOn cancelAt last) = none)
    {d : Nat} (member : d ∈ due) : (∃ c ∈ cancelAt, c ≤ d) ∨ last < d :=
  not_mayGoOn_iff.mp fun may => Option.filter_eq_none_iff.mp given d member (decide_eq_true may)

theorem wakesUnder_le_iff (due : Option Nat) (t : Nat) :
    wakesUnder cancelAt last due ≤ t ↔
      (∃ c ∈ cancelAt, c ≤ t) ∨ (∃ d ∈ due, d ≤ t) ∨ last ≤ t := by
  cases given : due.filter (MayGoOn cancelAt last) with
  | some d =>
    rw [wakesUnder_of_some given]
    obtain ⟨member, may⟩ := Option.filter_eq_some_iff.mp given
    obtain ⟨within, before⟩ := of_decide_eq_true may
    refine ⟨fun late => .inr (.inl ⟨d, member, late⟩), ?_⟩
    rintro (⟨c, given, late⟩ | ⟨d', member', late⟩ | late)
    · exact Nat.le_trans (Nat.le_of_lt (before c given)) late
    · exact Option.mem_unique member member' ▸ late
    · exact Nat.le_trans within late
  | none =>
    rw [wakesUnder_of_none given, stopsAt_le_iff]
    refine ⟨Or.imp_right .inr, ?_⟩
    rintro (cancel | ⟨d, member, late⟩ | late)
    · exact .inl cancel
    · rcases not_mayGoOn_of_filter given member with ⟨c, given, early⟩ | beyond
      · exact .inl ⟨c, given, Nat.le_trans early late⟩
      · exact .inr (Nat.le_of_lt (Nat.lt_of_lt_of_le beyond late))
    · exact .inr late

theorem wakesUnder_mem (cancelAt : Option Nat) (last : Nat) {due : Option Nat} {timers : List Nat}
    (timer : ∀ d ∈ due, d ∈ timers) :
    wakesUnder cancelAt last due ∈ last :: (cancelAt.toList ++ timers) := by
  cases given : due.filter (MayGoOn cancelAt last) with
  | some d =>
    rw [wakesUnder_of_some given]
    have member := (Option.filter_eq_some_iff.mp given).1
    exact List.mem_cons_of_mem _ (List.mem_append_right _ (timer d member))
  | none =>
    rw [wakesUnder_of_none given]
    cases cancelAt with
    | none => exact List.mem_cons_self
    | some c =>
      rcases Nat.le_total last c with first | first
      · simp [stopsAt, Nat.min_eq_left first]
      · simp [stopsAt, Nat.min_eq_right first]

section Waiting
variable {ready : σ → Bool} {abandon : σ → σ} {timers : List Nat} {next : Work σ α}
  {due : Option Nat} {deadline : Nat} (ahead : ∀ t ∈ due, t ∈ timers ∧ Clocked.now s < t)
  (onCancel onDeadline : α)
include ahead

/-- Work that waits when no time is left is abandoned there. -/
theorem run_limited_past (begun : MayGoOn cancelAt (Clocked.now s) (Clocked.now s))
    (past : deadline ≤ Clocked.now s) :
    ((wait ready abandon timers next).limited cancelAt deadline onCancel onDeadline).run s =
      match due.filter (MayGoOn cancelAt (Clocked.now s)) with
      | some t => (next.limited cancelAt deadline onCancel onDeadline).run (Clocked.setNow t s)
      | none => (some (if ∃ c ∈ cancelAt, c ≤ Clocked.now s then onCancel else onDeadline),
          abandon (Clocked.setNow (stopsAt cancelAt (Clocked.now s)) s)) := by
  have nothing : due.filter (MayGoOn cancelAt (Clocked.now s)) = none := by
    refine Option.filter_eq_none_iff.mpr fun t member may => ?_
    exact absurd (of_decide_eq_true may).1 (Nat.not_le_of_lt (ahead t member).2)
  have uncancelled : ¬ ∃ c ∈ cancelAt, c ≤ Clocked.now s := by
    rintro ⟨c, given, early⟩
    exact absurd early (Nat.not_le_of_lt (begun.2 c given))
  have stops : stopsAt cancelAt (Clocked.now s) = Clocked.now s := by
    cases cancelAt with
    | none => rfl
    | some c => exact Nat.min_eq_left (Nat.le_of_lt (begun.2 c rfl))
  rw [nothing, if_neg uncancelled, stops, LawfulClock.setNow_now]
  simp only [limited, look, run, id, if_pos past]

/-- Work under a deadline waits as the work itself does, or until it is abandoned. -/
theorem run_limited_wait (wakes : ∀ t, ready (Clocked.setNow t s) = true ↔ ∃ d ∈ due, d ≤ t)
    (begun : MayGoOn cancelAt last (Clocked.now s))
    (due_last : max deadline (Clocked.now s) = last) :
    ((wait ready abandon timers next).limited cancelAt deadline onCancel onDeadline).run s =
      match due.filter (MayGoOn cancelAt last) with
      | some t => (next.limited cancelAt deadline onCancel onDeadline).run (Clocked.setNow t s)
      | none => (some (if ∃ c ∈ cancelAt, c ≤ last then onCancel else onDeadline),
          abandon (Clocked.setNow (stopsAt cancelAt last) s)) := by
  by_cases past : deadline ≤ Clocked.now s
  · obtain rfl : last = Clocked.now s := by omega
    exact run_limited_past ahead onCancel onDeadline begun past
  obtain rfl : deadline = last := by omega
  have rings (t : Nat) : (cancelled cancelAt (Clocked.setNow t s) || ready (Clocked.setNow t s) ||
      decide (deadline ≤ Clocked.now (Clocked.setNow t s))) = true ↔
        ∃ d ∈ some (wakesUnder cancelAt deadline due), d ≤ t := by
    simp only [Bool.or_eq_true, decide_eq_true_eq, cancelled_setNow_iff, wakes,
      LawfulClock.now_setNow, Option.mem_def, Option.some.injEq, exists_eq_left',
      wakesUnder_le_iff, or_assoc]
  have coming : ∀ t ∈ some (wakesUnder cancelAt deadline due),
      t ∈ deadline :: (cancelAt.toList ++ timers) ∧ Clocked.now s < t := by
    rintro t ⟨⟩
    refine ⟨wakesUnder_mem cancelAt deadline fun d member => (ahead d member).1, ?_⟩
    refine Nat.lt_of_not_le fun early => ?_
    rcases (wakesUnder_le_iff due _).mp early with ⟨c, given, early⟩ | ⟨d, member, early⟩ | late
    · exact absurd early (Nat.not_le_of_lt (begun.2 c given))
    · exact absurd early (Nat.not_le_of_lt (ahead d member).2)
    · exact past late
  rw [limited, look, run, id, if_neg past, run_of_wakes coming rings, Option.elim, look, run, id]
  cases given : due.filter (MayGoOn cancelAt deadline) with
  | some t =>
    obtain ⟨member, may⟩ := Option.filter_eq_some_iff.mp given
    have uncancelled : ¬ ∃ c ∈ cancelAt, c ≤ t := by
      rintro ⟨c, given, early⟩
      exact absurd early (Nat.not_le_of_lt ((of_decide_eq_true may).2 c given))
    rw [wakesUnder_of_some given, if_neg (mt (cancelled_setNow_iff _ _ s).mp uncancelled),
      if_pos ((wakes t).mpr ⟨t, member, Nat.le_refl t⟩)]
  | none =>
    rw [wakesUnder_of_none given]
    simp only [cancelled_setNow_iff, cancelled_stopsAt_iff]
    by_cases cancel : ∃ c ∈ cancelAt, c ≤ deadline
    · rw [if_pos cancel, if_pos cancel]
      rfl
    · have undue : ¬ ready (Clocked.setNow (stopsAt cancelAt deadline) s) = true := by
        rw [wakes]
        rintro ⟨d, member, early⟩
        have within : stopsAt cancelAt deadline ≤ deadline :=
          stopsAt_le_iff.mpr (.inr (Nat.le_refl _))
        rcases not_mayGoOn_of_filter given member with ⟨c, given, before⟩ | beyond
        · exact cancel ⟨c, given, by omega⟩
        · omega
      rw [if_neg cancel, if_neg undue, if_neg cancel]
      rfl

end Waiting

theorem Timed.run_limited (timed : Timed w s) {deadline : Nat} (onCancel onDeadline : α)
    (begun : MayGoOn cancelAt last (Clocked.now s))
    (due_last : max deadline (Clocked.now s) = last) :
    (w.limited cancelAt deadline onCancel onDeadline).run s =
      (some ((w.runUntil cancelAt last s).1.getD
        (if ∃ c ∈ cancelAt, c ≤ last then onCancel else onDeadline)),
        (w.runUntil cancelAt last s).2) := by
  induction timed with
  | done a s => rfl
  | act made _ ih => exact ih (made ▸ begun) (made ▸ due_last)
  | @wait ready abandon timers next s due ahead wakes _ _ ih =>
    rw [run_limited_wait ahead onCancel onDeadline wakes begun due_last, runUntil,
      wakesAt?_of_wakes ahead wakes]
    cases given : due.filter (MayGoOn cancelAt last) with
    | none => rfl
    | some t =>
      obtain ⟨member, may⟩ := Option.filter_eq_some_iff.mp given
      have may := of_decide_eq_true may
      have later := (ahead t member).2
      refine ih t member (by rwa [LawfulClock.now_setNow]) ?_
      rw [LawfulClock.now_setNow]
      have within := may.1
      omega

end Abandoned

/-! ## Verdicts -/

section Verdicts
variable {w : Work σ α} {s t : σ} {a : α} {cancelAt : Option Nat} {deadline : Nat}

/-- The last moment at which bounded work may go on. Where the deadline is past it is the moment at
which the work is begun. -/
def lastMoment (deadline : Nat) (s : σ) : Nat := max deadline (Clocked.now s)

theorem mayGoOn_of_not_cancelled (deadline : Nat) (uncancelled : ¬ cancelled cancelAt s = true) :
    MayGoOn cancelAt (lastMoment deadline s) (Clocked.now s) := by
  refine ⟨Nat.le_max_right _ _, fun c given => Nat.lt_of_not_le fun early => ?_⟩
  exact uncancelled (cancelled_iff.mpr ⟨c, given, early⟩)

theorem race_cancel_eq_zero_iff :
    (w.race cancelAt deadline s).cancel = some 0 ↔ cancelled cancelAt s = true := by
  rw [cancelled_iff, race, Option.map_eq_some_iff]
  simp only [Option.mem_def, Nat.sub_eq_zero_iff_le]

/-- Work is not begun exactly if it has been cancelled beforehand. -/
theorem verdict_eq_unbegun_iff :
    (w.race cancelAt deadline s).verdict = .unbegun ↔ cancelled cancelAt s = true := by
  rw [Race.verdict_eq_unbegun_iff, race_cancel_eq_zero_iff]

theorem takes?_eq_some_iff {e : Nat} :
    w.takes? s = some e ↔
      ∃ a t, w.run s = (some a, t) ∧ Clocked.now t - Clocked.now s = e := by
  unfold takes?
  rcases w.run s with ⟨_ | a, t⟩
  · simp
  · exact ⟨fun same => ⟨a, t, rfl, Option.some.inj same⟩, by rintro ⟨_, _, ⟨⟩, rfl⟩; rfl⟩

variable [LawfulClock σ]

/-- The work wins the race if it ends while it may go on. -/
theorem Timed.wins_iff (timed : Timed w s) :
    (∃ e ∈ (w.race cancelAt deadline s).finish, e ≤ (w.race cancelAt deadline s).budget ∧
        ∀ c ∈ (w.race cancelAt deadline s).cancel, e < c) ↔
      ∃ a t, w.run s = (some a, t) ∧
        MayGoOn cancelAt (lastMoment deadline s) (Clocked.now t) := by
  constructor
  · rintro ⟨e, member, within, before⟩
    obtain ⟨a, t, ran, rfl⟩ := takes?_eq_some_iff.mp member
    have after := timed.now_le ran
    refine ⟨a, t, ran, by simp only [race, lastMoment] at within ⊢; omega, fun c given => ?_⟩
    have first := before (c - Clocked.now s) (Option.map_eq_some_iff.mpr ⟨c, given, rfl⟩)
    omega
  · rintro ⟨a, t, ran, within, before⟩
    have after := timed.now_le ran
    refine ⟨_, takes?_eq_some_iff.mpr ⟨a, t, ran, rfl⟩, ?_, fun c given => ?_⟩
    · simp only [race, lastMoment] at within ⊢
      omega
    · obtain ⟨moment, cancels, rfl⟩ := Option.map_eq_some_iff.mp given
      have first := before moment cancels
      omega

theorem Timed.verdict_eq_finished (timed : Timed w s) (uncancelled : ¬ cancelled cancelAt s = true)
    (ran : w.run s = (some a, t))
    (inTime : MayGoOn cancelAt (lastMoment deadline s) (Clocked.now t)) :
    (w.race cancelAt deadline s).verdict = .finished := by
  rw [Race.verdict, if_neg (mt race_cancel_eq_zero_iff.mp uncancelled),
    if_pos (timed.wins_iff.mpr ⟨a, t, ran, inTime⟩)]

section Unfinished
variable (timed : Timed w s)
  (unfinished : ∀ a t, w.run s = (some a, t) →
    ¬ MayGoOn cancelAt (lastMoment deadline s) (Clocked.now t))
include timed unfinished

theorem Timed.not_wins :
    ¬ ∃ e ∈ (w.race cancelAt deadline s).finish, e ≤ (w.race cancelAt deadline s).budget ∧
        ∀ c ∈ (w.race cancelAt deadline s).cancel, e < c := by
  intro wins
  obtain ⟨a, t, ran, may⟩ := timed.wins_iff.mp wins
  exact unfinished a t ran may

variable (uncancelled : ¬ cancelled cancelAt s = true)
include uncancelled

theorem Timed.verdict_eq_cancelled (untied : (w.race cancelAt deadline s).Untied) {c : Nat}
    (given : c ∈ cancelAt) (early : c ≤ lastMoment deadline s) :
    (w.race cancelAt deadline s).verdict = .cancelled := by
  have later := (mayGoOn_of_not_cancelled deadline uncancelled).2 c given
  have member : c - Clocked.now s ∈ (w.race cancelAt deadline s).cancel :=
    Option.map_eq_some_iff.mpr ⟨c, given, rfl⟩
  obtain ⟨apart, apart'⟩ := untied _ member (by omega)
  have first : ∃ c ∈ (w.race cancelAt deadline s).cancel,
      c < (w.race cancelAt deadline s).budget ∧
        ∀ e ∈ (w.race cancelAt deadline s).finish, c < e := by
    refine ⟨_, member, ?_, fun e ends => ?_⟩
    · simp only [race, lastMoment] at apart' early ⊢
      omega
    · obtain ⟨a, t, ran, rfl⟩ := takes?_eq_some_iff.mp ends
      have differs : Clocked.now t - Clocked.now s ≠ c - Clocked.now s :=
        fun same => apart (ends.trans (congrArg some same))
      rcases not_mayGoOn_iff.mp (unfinished a t ran) with ⟨c', given', before⟩ | beyond
      · cases Option.mem_unique given given'
        omega
      · omega
  rw [Race.verdict, if_neg (mt race_cancel_eq_zero_iff.mp uncancelled),
    if_neg (timed.not_wins unfinished), if_pos first]

theorem Timed.verdict_eq_late (later : ∀ c ∈ cancelAt, lastMoment deadline s < c) :
    (w.race cancelAt deadline s).verdict = .late := by
  have last : ¬ ∃ c ∈ (w.race cancelAt deadline s).cancel,
      c < (w.race cancelAt deadline s).budget ∧
        ∀ e ∈ (w.race cancelAt deadline s).finish, c < e := by
    rintro ⟨_, member, early, -⟩
    obtain ⟨c, given, rfl⟩ := Option.map_eq_some_iff.mp member
    have after := later c given
    simp only [race, lastMoment] at early after
    omega
  rw [Race.verdict, if_neg (mt race_cancel_eq_zero_iff.mp uncancelled),
    if_neg (timed.not_wins unfinished), if_neg last]

end Unfinished

/-- What comes of bounded work is settled by the rival that comes first, and it is over then. -/
theorem Timed.run_bounded (timed : Timed w s) (untied : (w.race cancelAt deadline s).Untied)
    (onCancel onDeadline : α) :
    (w.bounded cancelAt deadline onCancel onDeadline).run s =
        (match (w.race cancelAt deadline s).verdict with
          | .unbegun => (some onCancel, s)
          | .finished => w.run s
          | .cancelled => (some onCancel, (w.runUntil cancelAt (lastMoment deadline s) s).2)
          | .late => (some onDeadline, (w.runUntil cancelAt (lastMoment deadline s) s).2)) ∧
      Clocked.now ((w.bounded cancelAt deadline onCancel onDeadline).run s).2 =
        Clocked.now s + (w.race cancelAt deadline s).length := by
  by_cases uncancelled : cancelled cancelAt s = true
  · rw [run_bounded_of_cancelled uncancelled, Race.length, verdict_eq_unbegun_iff.mpr uncancelled]
    exact ⟨rfl, rfl⟩
  have begun := mayGoOn_of_not_cancelled deadline uncancelled
  rw [bounded, look, run, if_neg uncancelled, id, timed.run_limited _ _ begun rfl, Race.length]
  by_cases finished : ∃ a t, w.run s = (some a, t) ∧
      MayGoOn cancelAt (lastMoment deadline s) (Clocked.now t)
  · obtain ⟨a, t, ran, inTime⟩ := finished
    rw [timed.verdict_eq_finished uncancelled ran inTime, timed.runUntil_of_finished ran inTime,
      ran]
    have after := timed.now_le ran
    have ends : (w.race cancelAt deadline s).finish = some (Clocked.now t - Clocked.now s) :=
      takes?_eq_some_iff.mpr ⟨a, t, ran, rfl⟩
    simp only [Option.getD_some, ends, true_and]
    omega
  have unfinished (a : α) (t : σ) (ran : w.run s = (some a, t)) :
      ¬ MayGoOn cancelAt (lastMoment deadline s) (Clocked.now t) :=
    fun may => finished ⟨a, t, ran, may⟩
  obtain ⟨abandoned, stops⟩ := timed.runUntil_of_unfinished begun unfinished
  rw [abandoned, stops, Option.getD_none]
  by_cases cancel : ∃ c ∈ cancelAt, c ≤ lastMoment deadline s
  · obtain ⟨c, given, early⟩ := id cancel
    have member : (w.race cancelAt deadline s).cancel = some (c - Clocked.now s) :=
      Option.map_eq_some_iff.mpr ⟨c, given, rfl⟩
    have later := begun.2 c given
    rw [timed.verdict_eq_cancelled unfinished uncancelled untied given early, if_pos cancel]
    refine ⟨rfl, ?_⟩
    cases given
    simp only [stopsAt, Option.elim, member, Option.getD_some]
    omega
  · have later : ∀ c ∈ cancelAt, lastMoment deadline s < c :=
      fun c given => Nat.lt_of_not_le fun early => cancel ⟨c, given, early⟩
    rw [timed.verdict_eq_late unfinished uncancelled later, if_neg cancel]
    refine ⟨rfl, ?_⟩
    cases cancelAt with
    | none =>
      simp only [stopsAt, Option.elim, race, lastMoment]
      omega
    | some c =>
      have after := later c rfl
      simp only [stopsAt, Option.elim, race, lastMoment] at after ⊢
      omega

end Verdicts

end Work
end ClusterGraph
