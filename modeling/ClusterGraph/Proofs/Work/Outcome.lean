import ClusterGraph.Work.Deadline

/-!
# What work leads to

Three views of work, from the coarsest to the finest. `Work.Changes` says of what kind every change
is that work makes, whatever the states are that it makes them in. `Work.Leads` says what holds
where work waits and where it ends, if nobody else changes the state but the clock. `Work.Among`
says what work adds to a log if others may do anything to the state between any two of its changes,
and if it may be cut off or abandoned at any time.

Limits respect all three: they only look at the clock, and may abandon the work where it waits.
-/
namespace ClusterGraph
namespace Work

variable {σ α β : Type}

/-! ## Changes -/

section Changes
variable {change : σ → σ → Prop} {w : Work σ α}

/-- Every change that the work makes, also when it is abandoned, is of a kind. -/
inductive Changes (change : σ → σ → Prop) : Work σ α → Prop where
  | done (a : α) : Changes change (.done a)
  | act {update : σ → σ} {next : σ → Work σ α} (made : ∀ s, change s (update s))
      (rest : ∀ s, Changes change (next s)) : Changes change (.act update next)
  | wait {ready : σ → Bool} {abandon : σ → σ} {timers : List Nat} {next : Work σ α}
      (undone : ∀ s, change s (abandon s)) (rest : Changes change next) :
      Changes change (.wait ready abandon timers next)

theorem Changes.look {next : σ → Work σ α} (refl : ∀ s, change s s)
    (rest : ∀ s, Changes change (next s)) : Changes change (look next) :=
  .act refl rest

theorem Changes.step {f : σ → α × σ} (made : ∀ s, change s (f s).2) :
    Changes change (step f) :=
  .act made fun _ => .done _

theorem Changes.bind (first : Changes change w) {k : α → Work σ β}
    (rest : ∀ a, Changes change (k a)) : Changes change (w.bind k) := by
  induction first with
  | done a => exact rest a
  | act made _ ih => exact .act made ih
  | wait undone _ ih => exact .wait undone ih

theorem Changes.imp {change' : σ → σ → Prop} (changes : Changes change w)
    (weaker : ∀ s t, change s t → change' s t) : Changes change' w := by
  induction changes with
  | done a => exact .done a
  | act made _ ih => exact .act (fun s => weaker _ _ (made s)) ih
  | wait undone _ ih => exact .wait (fun s => weaker _ _ (undone s)) ih

/-- What is undone last is of the kind as well. -/
theorem Changes.onAbandon (changes : Changes change w) (undo : σ → σ)
    (trans : ∀ s t u, change s t → change t u → change s u) (last : ∀ s, change s (undo s)) :
    Changes change (w.onAbandon undo) := by
  induction changes with
  | done a => exact .done a
  | act made _ ih => exact .act made ih
  | wait undone _ ih => exact .wait (fun s => trans _ _ _ (undone s) (last _)) ih

variable [Clocked σ]

theorem Changes.sleep (refl : ∀ s, change s s) (delay : Nat) :
    Changes change (sleep (σ := σ) delay) := by
  refine .look refl ?_
  intro s
  split
  · exact .done ()
  · exact .wait refl (.done ())

theorem Changes.limited (changes : Changes change w) (refl : ∀ s, change s s)
    (cancelAt : Option Nat) (deadline : Nat) (onCancel onDeadline : α) :
    Changes change (w.limited cancelAt deadline onCancel onDeadline) := by
  induction changes with
  | done a => exact .done a
  | act made _ ih => exact .act made ih
  | wait undone _ ih =>
    refine .look refl ?_
    intro s
    split
    · exact .act undone fun _ => .done _
    · refine .wait undone (.look refl ?_)
      intro s
      split
      · exact .act undone fun _ => .done _
      · split
        · exact ih
        · exact .act undone fun _ => .done _

theorem Changes.bounded (changes : Changes change w) (refl : ∀ s, change s s)
    (cancelAt : Option Nat) (deadline : Nat) (onCancel onDeadline : α) :
    Changes change (w.bounded cancelAt deadline onCancel onDeadline) := by
  refine .look refl ?_
  intro s
  split
  · exact .done _
  · exact changes.limited refl cancelAt deadline onCancel onDeadline

end Changes

/-! ## Alone -/

section Leads
variable {idle : σ → Prop} {ends ends' : α → σ → Prop} {w : Work σ α} {s : σ}

/-- Work that is begun in a state: `idle` holds wherever it waits, also after it is abandoned there,
and `ends` holds of its value and the state in which it ends. -/
inductive Leads (idle : σ → Prop) (ends : α → σ → Prop) : Work σ α → σ → Prop where
  | done {a : α} {s : σ} (value : ends a s) : Leads idle ends (.done a) s
  | act {update : σ → σ} {next : σ → Work σ α} {s : σ}
      (rest : Leads idle ends (next s) (update s)) : Leads idle ends (.act update next) s
  | wait {ready : σ → Bool} {abandon : σ → σ} {timers : List Nat} {next : Work σ α} {s : σ}
      (state : idle s) (undone : ∀ s, idle s → idle (abandon s))
      (rest : ∀ s, idle s → Leads idle ends next s) :
      Leads idle ends (.wait ready abandon timers next) s

theorem Leads.bind (first : Leads idle ends w s) {k : α → Work σ β} {ends' : β → σ → Prop}
    (rest : ∀ a s, ends a s → Leads idle ends' (k a) s) : Leads idle ends' (w.bind k) s := by
  induction first with
  | done value => exact rest _ _ value
  | act _ ih => exact .act ih
  | wait state undone _ ih => exact .wait state undone ih

theorem Leads.mono (leads : Leads idle ends w s) (weaker : ∀ a s, ends a s → ends' a s) :
    Leads idle ends' w s := by
  induction leads with
  | done value => exact .done (weaker _ _ value)
  | act _ ih => exact .act ih
  | wait state undone _ ih => exact .wait state undone ih

/-- Work whose changes keep what holds keeps it. -/
theorem Changes.leads {change : σ → σ → Prop} (changes : Changes change w)
    (kept : ∀ s t, change s t → idle s → idle t) (state : idle s) :
    Leads idle (fun _ => idle) w s := by
  induction changes generalizing s with
  | done a => exact .done state
  | act made _ ih => exact .act (ih s (kept _ _ (made s) state))
  | wait undone _ ih => exact .wait state (fun s => kept _ _ (undone s)) fun _ state => ih state

variable [Clocked σ]

theorem Leads.limited (leads : Leads idle ends w s) (cancelAt : Option Nat) (deadline : Nat)
    {onCancel onDeadline : α} (cancel : ∀ s, idle s → ends onCancel s)
    (late : ∀ s, idle s → ends onDeadline s) :
    Leads idle ends (w.limited cancelAt deadline onCancel onDeadline) s := by
  induction leads with
  | done value => exact .done value
  | act _ ih => exact .act ih
  | @wait ready abandon timers next s state undone _ ih =>
    refine .act ?_
    split
    · exact .act (.done (late _ (undone s state)))
    · refine .wait state undone ?_
      intro s state
      refine .act ?_
      split
      · exact .act (.done (cancel _ (undone s state)))
      · split
        · exact ih s state
        · exact .act (.done (late _ (undone s state)))

/-- Bounded work either is not started or goes on under its deadline. -/
theorem Leads.bounded (leads : Leads idle ends w s) (cancelAt : Option Nat) (deadline : Nat)
    {onCancel onDeadline : α} (unstarted : ends onCancel s)
    (cancel : ∀ s, idle s → ends onCancel s) (late : ∀ s, idle s → ends onDeadline s) :
    Leads idle ends (w.bounded cancelAt deadline onCancel onDeadline) s := by
  refine .act ?_
  split
  · exact .done unstarted
  · exact leads.limited cancelAt deadline cancel late

/-- One piece of work after another runs on from the state that the first leaves, unless the first
has no value. -/
theorem run_bind (w : Work σ α) (k : α → Work σ β) (s : σ) :
    (w.bind k).run s =
      match w.run s with
      | (some a, t) => (k a).run t
      | (none, t) => (none, t) := by
  induction w generalizing s with
  | done a => rfl
  | act update next ih => exact ih s (update s)
  | wait ready abandon timers next ih =>
    simp only [Work.bind, run]
    split
    · exact ih s
    · split
      · exact ih _
      · rfl

/-- One piece of work after another that has a value. -/
theorem run_bind_of_some {w : Work σ α} {a : α} {t : σ} (first : w.run s = (some a, t))
    (k : α → Work σ β) : (w.bind k).run s = (k a).run t := by
  rw [run_bind, first]

/-- What work undoes if it is abandoned does not show in a run. -/
theorem run_onAbandon (w : Work σ α) (undo : σ → σ) (s : σ) :
    (w.onAbandon undo).run s = w.run s := by
  induction w generalizing s with
  | done a => rfl
  | act update next ih => exact ih s (update s)
  | wait ready abandon timers next ih =>
    simp only [onAbandon, run]
    split
    · exact ih s
    · split
      · exact ih _
      · rfl

/-- Work that has been cancelled beforehand is not started. -/
theorem run_bounded_of_cancelled {cancelAt : Option Nat} (stopped : cancelled cancelAt s = true)
    (deadline : Nat) (onCancel onDeadline : α) (work : Work σ α) :
    (work.bounded cancelAt deadline onCancel onDeadline).run s = (some onCancel, s) := by
  unfold Work.bounded look
  rw [Work.run, if_pos stopped]
  rfl

/-- The state in which a run of work ends: with a value, or idle for ever. -/
def Ended (idle : σ → Prop) (ends : α → σ → Prop) : Option α × σ → Prop
  | (some a, s) => ends a s
  | (none, s) => idle s

/-- A run of work leads where the work does, if the clock does not matter while it is idle. -/
theorem Leads.run (leads : Leads idle ends w s)
    (moves : ∀ s now, idle s → idle (Clocked.setNow now s)) : Ended idle ends (w.run s) := by
  induction leads with
  | done value => exact value
  | act _ ih => exact ih
  | wait state undone _ ih =>
    simp only [Work.run]
    split
    · exact ih _ state
    · split
      · exact ih _ (moves _ _ state)
      · exact state

/-- What holds wherever work is idle and when it ends holds of the state that its run leaves. -/
theorem Leads.holds (leads : Leads idle (fun _ => idle) w s)
    (moves : ∀ s now, idle s → idle (Clocked.setNow now s)) : idle (w.run s).2 := by
  have ended := leads.run moves
  generalize w.run s = outcome at ended
  obtain ⟨answer, t⟩ := outcome
  cases answer with
  | some a => exact ended
  | none => exact ended

/-- What every change keeps, and the clock as well, still holds when the work is over. -/
theorem Changes.run {change : σ → σ → Prop} (changes : Changes change w)
    (kept : ∀ s t, change s t → idle s → idle t)
    (moves : ∀ s now, idle s → idle (Clocked.setNow now s)) (state : idle s) :
    idle (w.run s).2 :=
  (changes.leads kept state).holds moves

end Leads

/-! ## Among others -/

section Among
variable {ε : Type} {adds : σ → σ → List ε} {w : Work σ α} {log : List ε} {answer : Option α}

/-- What work may add to a log among others, and its value if it ends. Between its changes the state
may become any other. It may be cut off, and where it waits it may be abandoned. -/
inductive Among (adds : σ → σ → List ε) : Work σ α → List ε → Option α → Prop where
  | done (a : α) : Among adds (.done a) [] (some a)
  | act {update : σ → σ} {next : σ → Work σ α} {log : List ε} {answer : Option α} (s : σ)
      (rest : Among adds (next s) log answer) :
      Among adds (.act update next) (adds s (update s) ++ log) answer
  | wait {ready : σ → Bool} {abandon : σ → σ} {timers : List Nat} {next : Work σ α}
      {log : List ε} {answer : Option α} (rest : Among adds next log answer) :
      Among adds (.wait ready abandon timers next) log answer
  | abandoned {ready : σ → Bool} {abandon : σ → σ} {timers : List Nat} {next : Work σ α} (s : σ) :
      Among adds (.wait ready abandon timers next) (adds s (abandon s)) none
  | cut (w : Work σ α) : Among adds w [] none

/-- One piece of work after another: the second goes on with the value of the first, if there is
one. -/
theorem Among.of_bind {k : α → Work σ β} {answer : Option β}
    (among : Among adds (w.bind k) log answer) :
    (∃ a first rest, Among adds w first (some a) ∧ Among adds (k a) rest answer ∧
      log = first ++ rest) ∨ (Among adds w log none ∧ answer = none) := by
  induction w generalizing log with
  | done a => exact .inl ⟨a, [], log, .done a, among, rfl⟩
  | act update next ih =>
    cases among with
    | act s rest =>
      rcases ih s rest with ⟨a, first, last, begun, ended, rfl⟩ | ⟨begun, rfl⟩
      · exact .inl ⟨a, adds s (update s) ++ first, last, .act s begun, ended,
          (List.append_assoc _ _ _).symm⟩
      · exact .inr ⟨.act s begun, rfl⟩
    | cut => exact .inr ⟨.cut _, rfl⟩
  | wait ready abandon timers next ih =>
    cases among with
    | wait rest =>
      rcases ih rest with ⟨a, first, last, begun, ended, rfl⟩ | ⟨begun, rfl⟩
      · exact .inl ⟨a, first, last, .wait begun, ended, rfl⟩
      · exact .inr ⟨.wait begun, rfl⟩
    | abandoned s => exact .inr ⟨.abandoned s, rfl⟩
    | cut => exact .inr ⟨.cut _, rfl⟩

/-- Work whose changes add nothing adds nothing. -/
theorem Changes.log_eq_nil {change : σ → σ → Prop} (changes : Changes change w)
    (silent : ∀ s t, change s t → adds s t = []) (among : Among adds w log answer) : log = [] := by
  induction among with
  | done a => rfl
  | act s _ ih =>
    cases changes with
    | act made rest => rw [silent _ _ (made s), ih (rest s), List.nil_append]
  | wait _ ih =>
    cases changes with
    | wait undone rest => exact ih rest
  | abandoned s =>
    cases changes with
    | wait undone rest => exact silent _ _ (undone s)
  | cut => rfl

/-- A look at the state adds nothing. -/
theorem Among.of_look (refl : ∀ s, adds s s = []) {next : σ → Work σ α}
    (among : Among adds (look next) log answer) :
    (∃ s, Among adds (next s) log answer) ∨ (log = [] ∧ answer = none) := by
  cases among with
  | act s rest =>
    simp only [id, refl, List.nil_append]
    exact .inl ⟨s, rest⟩
  | cut => exact .inr ⟨rfl, rfl⟩

/-- Work that is abandoned where it waits, and then has a value of its own. -/
theorem Among.of_abandoned {ready : σ → Bool} {abandon : σ → σ} {timers : List Nat}
    {next : Work σ α} {a : α} (among : Among adds (.act abandon fun _ => .done a) log answer) :
    Among adds (.wait ready abandon timers next) log none ∧ (answer = some a ∨ answer = none) := by
  cases among with
  | act s rest =>
    cases rest with
    | done =>
      rw [List.append_nil]
      exact ⟨.abandoned s, .inl rfl⟩
    | cut =>
      rw [List.append_nil]
      exact ⟨.abandoned s, .inr rfl⟩
  | cut => exact ⟨.cut _, .inr rfl⟩

variable [Clocked σ] {cancelAt : Option Nat} {deadline : Nat} {onCancel onDeadline : α}

/-- Work under a deadline adds what the work itself would, perhaps up to where it is abandoned. -/
theorem Among.of_limited (refl : ∀ s, adds s s = [])
    (among : Among adds (w.limited cancelAt deadline onCancel onDeadline) log answer) :
    Among adds w log answer ∨
      (Among adds w log none ∧ (answer = some onCancel ∨ answer = some onDeadline)) := by
  induction w generalizing log with
  | done a => exact .inl among
  | act update next ih =>
    cases among with
    | act s rest =>
      rcases ih s rest with same | ⟨stopped, value⟩
      · exact .inl (.act s same)
      · exact .inr ⟨.act s stopped, value⟩
    | cut => exact .inl (.cut _)
  | wait ready abandon timers next ih =>
    -- Where the work is abandoned, the limit has a value of its own or is itself cut off.
    have stopped {a : α} {log : List ε} (value : a = onCancel ∨ a = onDeadline)
        (among : Among adds (.act abandon fun _ => .done a) log answer) :
        Among adds (.wait ready abandon timers next) log answer ∨
          (Among adds (.wait ready abandon timers next) log none ∧
            (answer = some onCancel ∨ answer = some onDeadline)) := by
      obtain ⟨left, rfl | rfl⟩ := among.of_abandoned
      · exact .inr ⟨left, value.imp (congrArg some) (congrArg some)⟩
      · exact .inl left
    rcases among.of_look refl with ⟨s, rest⟩ | ⟨rfl, rfl⟩
    · split at rest
      · exact stopped (.inr rfl) rest
      · cases rest with
        | wait rest =>
          rcases rest.of_look refl with ⟨s, rest⟩ | ⟨rfl, rfl⟩
          · split at rest
            · exact stopped (.inl rfl) rest
            · split at rest
              · rcases ih rest with same | ⟨left, value⟩
                · exact .inl (.wait same)
                · exact .inr ⟨.wait left, value⟩
              · exact stopped (.inr rfl) rest
          · exact .inl (.cut _)
        | abandoned s => exact .inl (.abandoned s)
        | cut => exact .inl (.cut _)
    · exact .inl (.cut _)

/-- Bounded work adds what the work itself would, perhaps up to where it is abandoned. -/
theorem Among.of_bounded (refl : ∀ s, adds s s = [])
    (among : Among adds (w.bounded cancelAt deadline onCancel onDeadline) log answer) :
    Among adds w log answer ∨
      (Among adds w log none ∧ (answer = some onCancel ∨ answer = some onDeadline)) := by
  rcases among.of_look refl with ⟨s, rest⟩ | ⟨rfl, rfl⟩
  · split at rest
    · cases rest with
      | done => exact .inr ⟨.cut _, .inl rfl⟩
      | cut => exact .inl (.cut _)
    · exact rest.of_limited refl
  · exact .inl (.cut _)

/-- What work adds when it runs alone is what it may add among others. `total` is all that the log
holds in a state. -/
theorem Changes.run_among {total : σ → List ε}
    (changes : Changes (fun s t => total t = total s ++ adds s t) w)
    (moves : ∀ s now, total (Clocked.setNow now s) = total s) (s : σ) :
    ∃ log, Among adds w log (w.run s).1 ∧ total (w.run s).2 = total s ++ log := by
  induction changes generalizing s with
  | done a => exact ⟨[], .done a, (List.append_nil _).symm⟩
  | act made _ ih =>
    obtain ⟨log, among, whole⟩ := ih s _
    refine ⟨_, .act s among, ?_⟩
    simp only [Work.run, whole, made s, List.append_assoc]
  | wait _ _ ih =>
    simp only [Work.run]
    split
    · obtain ⟨log, among, whole⟩ := ih s
      exact ⟨log, .wait among, whole⟩
    · split
      · next now _ =>
        obtain ⟨log, among, whole⟩ := ih (Clocked.setNow now s)
        exact ⟨log, .wait among, by rw [whole, moves]⟩
      · exact ⟨[], .cut _, (List.append_nil _).symm⟩

end Among
end Work
end ClusterGraph
