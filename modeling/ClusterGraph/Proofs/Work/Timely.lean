import ClusterGraph.Proofs.Work.Outcome

/-!
# Work that is over by a time

Only waiting takes time. Work is over by a limit if every wait of it ends by itself, at a timer that
lies within the limit, whatever else happens; then the clock never leads past the limit while the
work runs (`Work.Timely.course`), and the work comes to its end (`Work.Timely.answered`). This is
kept when pieces of work run one after another and when they run side by side: a pair waits no
longer than either side would.

Where the clock has come to its end, work waits for ever. Whether that may happen is a parameter of
the statements here; the clock does not lead past the limit even then.

Work under a deadline is over by the deadline, whatever it does (`Work.timely_limited`).
-/
namespace ClusterGraph

/-- A clock that is set shows the time that it was set to. Setting it to the time that it shows
changes nothing. -/
class LawfulClock (σ : Type) [Clocked σ] : Prop where
  now_setNow : ∀ t (s : σ), Clocked.now (Clocked.setNow t s) = t
  setNow_now : ∀ s : σ, Clocked.setNow (Clocked.now s) s = s

namespace Work
variable {σ τ α β γ ε : Type} [Clocked σ]

/-- What a change does takes no time. -/
def KeepsTime (s t : σ) : Prop := Clocked.now t = Clocked.now s

theorem keepsTime_sleep (delay : Nat) : Changes KeepsTime (sleep (σ := σ) delay) :=
  Changes.sleep (fun s => (rfl : KeepsTime s s)) delay

/-- The work may go on in every state from a time on. -/
def Wakes (ready : σ → Bool) (due : Nat) : Prop := ∀ s, due ≤ Clocked.now s → ready s = true

/-- A time within the limit. Nothing is said of it where work may be endless. -/
def Soon (endless : Prop) (limit t : Nat) : Prop := endless ∨ t ≤ limit

/-- Work that waits is woken within the limit, or it may be endless and is never woken. -/
def Woken (endless : Prop) (limit : Nat) (ready : σ → Bool) (timers : List Nat) : Prop :=
  (endless ∧ ∀ s, ready s = false) ∨ ∃ due ∈ timers, due ≤ limit ∧ Wakes ready due

/-- Work that waits from a time on goes on at another time, which is no later than any timer from
which on it may. -/
def GoesOn (ready : σ → Bool) (timers : List Nat) (t t' : Nat) : Prop :=
  t ≤ t' ∧ ∀ due ∈ timers, Wakes ready due → t' ≤ max t due

/-- Work that is begun at a time: wherever it waits it is woken within the limit, unless it may be
endless, and `ends` holds of its value and of the time at which it ends. -/
inductive Timely (endless : Prop) (limit : Nat) (ends : α → Nat → Prop) :
    Work σ α → Nat → Prop where
  | done {a : α} {t : Nat} (value : ends a t) : Timely endless limit ends (.done a) t
  | act {update : σ → σ} {next : σ → Work σ α} {t : Nat} (made : ∀ s, KeepsTime s (update s))
      (rest : ∀ s, Clocked.now s = t → Timely endless limit ends (next s) t) :
      Timely endless limit ends (.act update next) t
  | wait {ready : σ → Bool} {abandon : σ → σ} {timers : List Nat} {next : Work σ α} {t : Nat}
      (undone : ∀ s, KeepsTime s (abandon s)) (woken : Woken endless limit ready timers)
      (rest : ∀ t', GoesOn ready timers t t' → Timely endless limit ends next t') :
      Timely endless limit ends (.wait ready abandon timers next) t

/-- Work that is begun at a time is over by a limit. -/
abbrev Over (endless : Prop) (limit : Nat) (w : Work σ α) (t : Nat) : Prop :=
  Timely endless limit (fun _ => Soon endless limit) w t

/-- Work that is over by a limit whenever it is begun until then. -/
def Capped (endless : Prop) (limit : Nat) (w : Work σ α) : Prop :=
  ∀ t, Soon endless limit t → Over endless limit w t

section Waiting
variable {endless : Prop} {limit t t' u : Nat} {ready ready' : σ → Bool}
  {timers timers' : List Nat}

theorem GoesOn.refl : GoesOn ready timers t t :=
  ⟨Nat.le_refl t, fun due _ _ => Nat.le_max_left t due⟩

theorem GoesOn.trans (first : GoesOn ready timers t t') (second : GoesOn ready timers t' u) :
    GoesOn ready timers t u := by
  refine ⟨Nat.le_trans first.1 second.1, fun due timer wakes => ?_⟩
  have before := first.2 due timer wakes
  have after := second.2 due timer wakes
  omega

/-- Work that is woken within the limit goes on within it. -/
theorem Woken.soon (woken : Woken endless limit ready timers) (begun : Soon endless limit t)
    (on : GoesOn ready timers t t') : Soon endless limit t' := by
  rcases woken with ⟨allowed, -⟩ | ⟨due, timer, within, wakes⟩
  · exact .inl allowed
  · have before := on.2 due timer wakes
    exact begun.imp_right fun begun => by omega

theorem Woken.mono (woken : Woken endless limit ready timers) {limit' : Nat}
    (within : limit ≤ limit') : Woken endless limit' ready timers := by
  refine woken.imp_right ?_
  rintro ⟨due, timer, soon, wakes⟩
  exact ⟨due, timer, Nat.le_trans soon within, wakes⟩

theorem Wakes.left {due : Nat} (wakes : Wakes ready due) (ready' : σ → Bool) :
    Wakes (fun s => ready s || ready' s) due := by
  intro s late
  simp [wakes s late]

theorem Wakes.right {due : Nat} (wakes : Wakes ready' due) (ready : σ → Bool) :
    Wakes (fun s => ready s || ready' s) due := by
  intro s late
  simp [wakes s late]

/-- A pair is woken when either side is. -/
theorem Woken.pair (left : Woken endless limit ready timers)
    (right : Woken endless limit ready' timers') :
    Woken endless limit (fun s => ready s || ready' s) (timers ++ timers') := by
  rcases left with ⟨allowed, never⟩ | ⟨due, timer, soon, wakes⟩
  · rcases right with ⟨-, never'⟩ | ⟨due, timer, soon, wakes⟩
    · refine .inl ⟨allowed, fun s => ?_⟩
      simp [never, never']
    · exact .inr ⟨due, List.mem_append_right timers timer, soon, wakes.right ready⟩
  · exact .inr ⟨due, List.mem_append_left timers' timer, soon, wakes.left ready'⟩

/-- A pair goes on no later than either side would. -/
theorem GoesOn.sides
    (on : GoesOn (fun s : σ => ready s || ready' s) (timers ++ timers') t t') :
    GoesOn ready timers t t' ∧ GoesOn ready' timers' t t' := by
  constructor
  · refine ⟨on.1, fun due timer wakes => ?_⟩
    exact on.2 due (List.mem_append_left timers' timer) (wakes.left ready')
  · refine ⟨on.1, fun due timer wakes => ?_⟩
    exact on.2 due (List.mem_append_right timers timer) (wakes.right ready)

end Waiting

section Rules
variable {endless : Prop} {limit limit' : Nat} {ends : α → Nat → Prop} {ends' : β → Nat → Prop}
  {w : Work σ α} {t : Nat}

theorem Timely.look {next : σ → Work σ α}
    (rest : ∀ s, Clocked.now s = t → Timely endless limit ends (next s) t) :
    Timely endless limit ends (look next) t :=
  .act (fun _ => rfl) rest

theorem Timely.bind (first : Timely endless limit ends w t) (within : limit ≤ limit')
    {k : α → Work σ β} (rest : ∀ a t, ends a t → Timely endless limit' ends' (k a) t) :
    Timely endless limit' ends' (w.bind k) t := by
  induction first with
  | done value => exact rest _ _ value
  | act made _ ih => exact .act made ih
  | wait undone woken _ ih => exact .wait undone (woken.mono within) ih

theorem Timely.mono {ends' : α → Nat → Prop} (timely : Timely endless limit ends w t)
    (weaker : ∀ a t, ends a t → ends' a t) : Timely endless limit ends' w t := by
  induction timely with
  | done value => exact .done (weaker _ _ value)
  | act made _ ih => exact .act made ih
  | wait undone woken _ ih => exact .wait undone woken ih

/-- Work that waits goes on waiting when others are woken before it. -/
theorem Timely.later {ready : σ → Bool} {abandon : σ → σ} {timers : List Nat} {next : Work σ α}
    (timely : Timely endless limit ends (.wait ready abandon timers next) t) {t' : Nat}
    (on : GoesOn ready timers t t') :
    Timely endless limit ends (.wait ready abandon timers next) t' := by
  cases timely with
  | wait undone woken rest => exact .wait undone woken fun u later => rest u (on.trans later)

/-- Work that is woken where it is begun goes on at once. -/
theorem Timely.recheck (timely : Timely endless limit ends w t) :
    Timely endless limit ends w.recheck t := by
  cases timely with
  | done value => exact .done value
  | act made rest => exact .act made rest
  | wait undone woken rest =>
    refine .look fun s _ => ?_
    split
    · exact rest t .refl
    · exact .wait undone woken rest

theorem Timely.undo (timely : Timely endless limit ends w t) (s : σ) : KeepsTime s (w.undo s) := by
  cases timely with
  | done value => rfl
  | act made rest => rfl
  | wait undone woken rest => exact undone s

end Rules

/-! ## Side by side -/

section Pairs
variable {endless : Prop} {limit t : Nat} {stopLeft : α → Option γ} {stopRight : β → Option γ}
  {combine : α → β → γ}

/-- The right side of a pair whose left side waits. `onward` says that the left side goes on in time
when it is woken. -/
theorem timely_parRight {right : Work σ β} (timely : Over endless limit right t)
    {left : Work σ β → Work σ γ} {ready : σ → Bool} {abandon : σ → σ} {timers : List Nat}
    (undone : ∀ s, KeepsTime s (abandon s)) (woken : Woken endless limit ready timers)
    (onward : ∀ t' right', GoesOn ready timers t t' → Over endless limit right' t' →
      Over endless limit (left right') t') :
    Over endless limit (right.parRight stopRight left ready abandon timers) t := by
  induction timely with
  | @done b t soon =>
    unfold parRight
    split
    · exact .act undone fun _ _ => .done soon
    · exact .wait undone woken fun t' on => onward t' _ on (.done (woken.soon soon on))
  | act made _ ih => exact .act made fun s now => ih s now onward
  | @wait ready' abandon' timers' next t undone' woken' rest ih =>
    refine .wait (fun s => (undone' _).trans (undone s)) (woken.pair woken') fun t' on => ?_
    obtain ⟨onLeft, onRight⟩ := on.sides
    have waiting : Over endless limit (.wait ready' abandon' timers' next) t :=
      .wait undone' woken' rest
    refine .look fun s _ => ?_
    split
    · exact onward t' _ onLeft (waiting.later onRight)
    · exact ih t' onRight fun u right' later => onward u right' (onLeft.trans later)

/-- Two pieces of work by turns are over when both of them are. -/
theorem Timely.par {left : Work σ α} {right : Work σ β}
    (first : Over endless limit left t) (second : Over endless limit right t) :
    Over endless limit (par stopLeft stopRight combine left right) t := by
  induction first generalizing right with
  | @done a t soon =>
    unfold Work.par
    split
    · exact .act second.undo fun _ _ => .done soon
    · exact second.recheck.bind (Nat.le_refl limit) fun _ _ soon => .done soon
  | act made _ ih => exact .act made fun s now => ih s now second
  | wait undone woken _ ih =>
    exact timely_parRight second.recheck undone woken fun t' right' on timely => ih t' on timely

theorem timely_all {works : List (Work σ α)} (begun : Soon endless limit t)
    (each : ∀ w ∈ works, Over endless limit w t) : Over endless limit (all works) t := by
  induction works with
  | nil => exact .done begun
  | cons w rest ih =>
    exact (each w List.mem_cons_self).par
      (ih fun other member => each other (List.mem_cons_of_mem w member))

end Pairs

/-! ## Work that is over whenever it is begun -/

section Capped
variable {endless : Prop} {limit : Nat}

theorem capped_done (a : α) : Capped (σ := σ) endless limit (.done a) := fun _ begun => .done begun

theorem capped_act {update : σ → σ} {next : σ → Work σ α} (made : ∀ s, KeepsTime s (update s))
    (rest : ∀ s, Capped endless limit (next s)) : Capped endless limit (.act update next) :=
  fun t begun => .act made fun s _ => rest s t begun

theorem Capped.bind {w : Work σ α} (first : Capped endless limit w) {k : α → Work σ β}
    (rest : ∀ a, Capped endless limit (k a)) : Capped endless limit (w.bind k) :=
  fun t begun => (first t begun).bind (Nat.le_refl limit) rest

theorem capped_tryAll {works : List (Work σ (Except ε α))}
    (each : ∀ w ∈ works, Capped endless limit w) : Capped endless limit (tryAll works) := by
  induction works with
  | nil => exact capped_done _
  | cons w rest ih =>
    intro t begun
    exact (each w List.mem_cons_self t begun).par
      (ih (fun other member => each other (List.mem_cons_of_mem w member)) t begun)

/-- Work on the part of a larger state that shows the time. -/
theorem Timely.within [Clocked τ] (get : τ → σ) (put : σ → τ → τ)
    (shown : ∀ t, Clocked.now (get t) = Clocked.now t)
    (set : ∀ s t, Clocked.now (put s t) = Clocked.now s) {ends : α → Nat → Prop} {w : Work σ α}
    {t : Nat} (timely : Timely endless limit ends w t) :
    Timely endless limit ends (w.within get put) t := by
  have kept {update : σ → σ} (made : ∀ s, KeepsTime s (update s)) (x : τ) :
      KeepsTime x (put (update (get x)) x) :=
    (set _ _).trans ((made (get x)).trans (shown x))
  have rings {ready : σ → Bool} {due : Nat} (wakes : Wakes ready due) :
      Wakes (fun x => ready (get x)) due := fun x late => wakes (get x) ((shown x).symm ▸ late)
  induction timely with
  | done value => exact .done value
  | act made _ ih => exact .act (kept made) fun x now => ih (get x) ((shown x).trans now)
  | wait undone woken _ ih =>
    refine .wait (kept undone) ?_ fun t' on => ih t' ⟨on.1, fun due timer wakes => ?_⟩
    · rcases woken with ⟨allowed, never⟩ | ⟨due, timer, soon, wakes⟩
      · exact .inl ⟨allowed, fun x => never (get x)⟩
      · exact .inr ⟨due, timer, soon, rings wakes⟩
    · exact on.2 due timer (rings wakes)

end Capped

/-! ## Under a deadline -/

section Limits
variable {endless : Prop} {limit t : Nat} {w : Work σ α}

/-- Work under a deadline is over by then, or by the time at which it is begun, whatever it does. -/
theorem timely_limited (changes : Changes KeepsTime w) {deadline finish : Nat}
    (within : deadline ≤ limit) (reached : deadline ≤ finish) (begun : t ≤ finish)
    (cancelAt : Option Nat) (onCancel onDeadline : α) :
    Timely endless limit (fun _ t => t ≤ finish)
      (w.limited cancelAt deadline onCancel onDeadline) t := by
  induction changes generalizing t with
  | done a => exact .done begun
  | act made _ ih => exact .act made fun s _ => ih s begun
  | @wait ready _ _ _ undone _ ih =>
    have wakes : Wakes (fun s : σ => cancelled cancelAt s || ready s || deadline ≤ Clocked.now s)
        deadline := fun s late => by simp [late]
    refine .look fun s _ => ?_
    split
    · exact .act undone fun _ _ => .done begun
    · -- The deadline itself is one of the timers.
      refine .wait undone (.inr ⟨deadline, List.mem_cons_self, within, wakes⟩) fun t' on => ?_
      have soon : t' ≤ finish :=
        Nat.le_trans (on.2 deadline List.mem_cons_self wakes) (Nat.max_le.mpr ⟨begun, reached⟩)
      refine .look fun s _ => ?_
      split
      · exact .act undone fun _ _ => .done soon
      · split
        · exact ih soon
        · exact .act undone fun _ _ => .done soon

theorem timely_bounded (changes : Changes KeepsTime w) {deadline finish : Nat}
    (within : deadline ≤ limit) (reached : deadline ≤ finish) (begun : t ≤ finish)
    (cancelAt : Option Nat) (onCancel onDeadline : α) :
    Timely endless limit (fun _ t => t ≤ finish)
      (w.bounded cancelAt deadline onCancel onDeadline) t := by
  refine .look fun s _ => ?_
  split
  · exact .done begun
  · exact timely_limited changes within reached begun cancelAt onCancel onDeadline

end Limits

/-! ## Runs -/

def course : Work σ α → σ → List σ
  | done _, s => [s]
  | act update next, s => s :: (next s).course (update s)
  | wait ready _ timers next, s =>
    s :: (if ready s then next.course s
      else
        match (upcoming timers s).find? fun t => ready (Clocked.setNow t s) with
        | some t => next.course (Clocked.setNow t s)
        | none => [])

/-- A run begins in the state that it is given. -/
theorem mem_course_self (w : Work σ α) (s : σ) : s ∈ w.course s := by
  cases w with
  | done a => exact List.mem_singleton_self s
  | act update next => exact List.mem_cons_self
  | wait ready abandon timers next => exact List.mem_cons_self

/-- A run ends in a state that it goes through. -/
theorem run_mem_course (w : Work σ α) (s : σ) : (w.run s).2 ∈ w.course s := by
  induction w generalizing s with
  | done a => exact List.mem_singleton_self s
  | act update next ih => exact List.mem_cons_of_mem s (ih s (update s))
  | wait ready abandon timers next ih =>
    simp only [run, course]
    by_cases at_once : ready s = true
    · rw [if_pos at_once, if_pos at_once]
      exact List.mem_cons_of_mem s (ih s)
    · rw [if_neg at_once, if_neg at_once]
      cases (upcoming timers s).find? fun t => ready (Clocked.setNow t s) with
      | some t => exact List.mem_cons_of_mem s (ih _)
      | none => exact List.mem_cons_self

theorem mem_upcoming_iff {timers : List Nat} {s : σ} {t : Nat} :
    t ∈ upcoming timers s ↔ t ∈ timers ∧ Clocked.now s < t := by
  unfold upcoming
  rw [List.mem_mergeSort, List.mem_filter, decide_eq_true_eq]

/-- The clock moves to the first timer at which the work may go on. -/
theorem le_of_find?_upcoming {timers : List Nat} {s : σ} {may : Nat → Bool} {t due : Nat}
    (found : (upcoming timers s).find? may = some t) (timer : due ∈ timers)
    (ahead : Clocked.now s < due) (rings : may due = true) : t ≤ due := by
  have sorted : (upcoming timers s).Pairwise (· ≤ ·) := by
    have sorted : (upcoming timers s).Pairwise fun a b => decide (a ≤ b) = true :=
      List.pairwise_mergeSort (fun a b c => by simpa using Nat.le_trans)
        (fun a b => by simpa using Nat.le_total a b) _
    simpa only [decide_eq_true_eq] using sorted
  have member : due ∈ upcoming timers s := mem_upcoming_iff.mpr ⟨timer, ahead⟩
  obtain ⟨-, before, after, split, earlier⟩ := List.find?_eq_some_iff_append.mp found
  rw [split] at member sorted
  rcases List.mem_append.mp member with inside | later
  · have silent := earlier due inside
    simp [rings] at silent
  · rcases List.mem_cons.mp later with rfl | behind
    · exact Nat.le_refl due
    · exact (List.pairwise_cons.mp (List.pairwise_append.mp sorted).2.1).1 due behind

/-- A timer at which the work may go on, and before which it may not, is where the clock moves. -/
theorem find?_upcoming_eq {timers : List Nat} {s : σ} {may : Nat → Bool} {due : Nat}
    (timer : due ∈ timers) (ahead : Clocked.now s < due) (rings : may due = true)
    (first : ∀ t < due, may t = false) : (upcoming timers s).find? may = some due := by
  cases found : (upcoming timers s).find? may with
  | none =>
    have silent := List.find?_eq_none.mp found due (mem_upcoming_iff.mpr ⟨timer, ahead⟩)
    exact absurd rings silent
  | some t =>
    have before := le_of_find?_upcoming found timer ahead rings
    rcases Nat.lt_or_eq_of_le before with early | same
    · have silent := first t early
      rw [List.find?_some found] at silent
      cases silent
    · rw [same]

/-- A timer from which on waiting work may go on is still to come, and wakes the work. -/
theorem ahead_of_waiting [LawfulClock σ] {ready : σ → Bool} {s : σ} {due : Nat}
    (waiting : ¬ ready s = true) (wakes : Wakes ready due) :
    Clocked.now s < due ∧ ready (Clocked.setNow due s) = true := by
  constructor
  · rcases Nat.lt_or_ge (Clocked.now s) due with ahead | late
    · exact ahead
    · exact absurd (wakes s late) waiting
  · exact wakes _ (Nat.le_of_eq (LawfulClock.now_setNow due s).symm)

/-- Where the clock moves, waiting work goes on. -/
theorem goesOn_of_woken [LawfulClock σ] {ready : σ → Bool} {timers : List Nat} {s : σ} {t : Nat}
    (waiting : ¬ ready s = true)
    (found : (upcoming timers s).find? (fun t => ready (Clocked.setNow t s)) = some t) :
    GoesOn ready timers (Clocked.now s) t := by
  have after := (mem_upcoming_iff.mp (List.mem_of_find?_eq_some found)).2
  refine ⟨Nat.le_of_lt after, fun due timer wakes => ?_⟩
  obtain ⟨ahead, rings⟩ := ahead_of_waiting waiting wakes
  have first := le_of_find?_upcoming found timer ahead rings
  omega

/-- A pause that ends by the deadline, or exactly then, ends as if there was no deadline, unless it
is cancelled by then. -/
theorem run_limited_sleep [LawfulClock σ] {delay deadline : Nat} {cancelAt : Option Nat}
    (onCancel onDeadline : α) (k : Unit → Work σ α) (s : σ)
    (reached : Clocked.now s + delay ≤ deadline)
    (uncancelled : ∀ t, cancelAt = some t → Clocked.now s + delay < t) :
    (((sleep delay).bind k).limited cancelAt deadline onCancel onDeadline).run s =
      ((k ()).limited cancelAt deadline onCancel onDeadline).run
        (Clocked.setNow (Clocked.now s + delay) s) := by
  by_cases some_time : delay = 0
  · subst some_time
    rw [Nat.add_zero, LawfulClock.setNow_now]
    rfl
  have goes_on (u : σ) (by_then : Clocked.now u ≤ Clocked.now s + delay) :
      cancelled cancelAt u = false := by
    cases cancelAt with
    | none => rfl
    | some moment =>
      have after := uncancelled moment rfl
      exact decide_eq_false (by omega)
  -- Before the pause is over, neither it nor the deadline wakes the work.
  have waits (u : σ) (early : Clocked.now u < Clocked.now s + delay) :
      (cancelled cancelAt u || decide (Clocked.now s + delay ≤ Clocked.now u) ||
        decide (deadline ≤ Clocked.now u)) = false := by
    rw [goes_on u (Nat.le_of_lt early), decide_eq_false (by omega), decide_eq_false (by omega)]
    rfl
  have moved : Clocked.now (Clocked.setNow (Clocked.now s + delay) s) = Clocked.now s + delay :=
    LawfulClock.now_setNow _ s
  have woken : (upcoming (deadline :: (cancelAt.toList ++ [Clocked.now s + delay])) s).find?
      (fun t => cancelled cancelAt (Clocked.setNow t s) ||
        decide (Clocked.now s + delay ≤ Clocked.now (Clocked.setNow t s)) ||
        decide (deadline ≤ Clocked.now (Clocked.setNow t s))) = some (Clocked.now s + delay) := by
    refine find?_upcoming_eq (by simp) (by omega) (by simp [moved]) fun t early => ?_
    exact waits _ (by rw [LawfulClock.now_setNow]; exact early)
  simp only [sleep, look, Work.bind, limited, run, id, if_neg some_time]
  rw [if_neg (by omega)]
  simp only [run, id, waits s (by omega), woken, goes_on _ (Nat.le_of_eq moved), moved]
  simp

section Timely
variable [LawfulClock σ] {endless : Prop} {limit : Nat} {ends : α → Nat → Prop} {w : Work σ α}
  {s : σ}

/-- While work runs that is over by a limit, the clock does not lead past the limit. -/
theorem Timely.course (timely : Timely endless limit ends w (Clocked.now s))
    (begun : Clocked.now s ≤ limit) : ∀ u ∈ w.course s, Clocked.now u ≤ limit := by
  generalize start : Clocked.now s = t at timely begun
  induction timely generalizing s with
  | done value =>
    intro u member
    rw [List.mem_singleton.mp member, start]
    exact begun
  | act made _ ih =>
    intro u member
    rcases List.mem_cons.mp member with rfl | later
    · rw [start]
      exact begun
    · exact ih s start ((made s).trans start) begun u later
  | @wait ready abandon timers next t undone woken rest ih =>
    intro u member
    rcases List.mem_cons.mp member with rfl | later
    · rw [start]
      exact begun
    split at later
    · exact ih t .refl start begun u later
    · next waiting =>
      split at later
      · next t' found =>
        have on : GoesOn ready timers t t' := start ▸ goesOn_of_woken waiting found
        have soon : t' ≤ limit := by
          rcases woken with ⟨-, never⟩ | ⟨due, timer, soon, wakes⟩
          · have rings := List.find?_some found
            simp [never] at rings
          · have before := on.2 due timer wakes
            omega
        exact ih t' on (LawfulClock.now_setNow t' s) soon u later
      · cases later

/-- Work that is over by a limit has stopped by then. -/
theorem Timely.run (timely : Timely endless limit ends w (Clocked.now s))
    (begun : Clocked.now s ≤ limit) : Clocked.now (w.run s).2 ≤ limit :=
  timely.course begun _ (run_mem_course w s)

/-- Work that is over by a limit comes to its end, unless it may be endless. -/
theorem Timely.answered (timely : Timely endless limit ends w (Clocked.now s))
    (finite : ¬ endless) : (w.run s).1.isSome = true := by
  generalize start : Clocked.now s = t at timely
  induction timely generalizing s with
  | done value => rfl
  | act made _ ih => exact ih s start ((made s).trans start)
  | @wait ready abandon timers next t undone woken rest ih =>
    unfold Work.run
    split
    · exact ih t .refl start
    · next waiting =>
      rcases woken with ⟨allowed, -⟩ | ⟨due, timer, soon, wakes⟩
      · exact absurd allowed finite
      cases found : (upcoming timers s).find? fun t => ready (Clocked.setNow t s) with
      | some t' =>
        have on : GoesOn ready timers t t' := start ▸ goesOn_of_woken waiting found
        exact ih t' on (LawfulClock.now_setNow t' s)
      | none =>
        obtain ⟨ahead, rings⟩ := ahead_of_waiting waiting wakes
        have silent := List.find?_eq_none.mp found due (mem_upcoming_iff.mpr ⟨timer, ahead⟩)
        exact absurd rings silent

end Timely

end Work
end ClusterGraph
