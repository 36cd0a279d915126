import ClusterGraph.Proofs.Gateway.Errand
import ClusterGraph.Proofs.Gateway.Mutation
import ClusterGraph.Proofs.Store.Uniqueness
import ClusterGraph.Proofs.Work.Timely

/-!
# How long operations take

An operation makes at most two bounded calls, one for the client and one with it. Each of them is
over within the limit for calls, and by the deadline of the request, so an operation is over when
both calls are (`Gateway.timely_perform`): after two such limits (`Gateway.dueBy_two_calls`), and by
the deadline (`Gateway.dueBy_deadline`). Nothing is assumed of the backend but that it sets no clock
(`Backend.KeepsTime`); how long it delays what it is asked, and who else is in the cache, does not
matter. A call that would end exactly at the deadline is not cut off (`run_bounded_of_punctual`).

A call whose limit lies beyond the end of the clock is endless. The time that it takes is bounded
even so.
-/
namespace ClusterGraph

instance {β : Type} : LawfulClock (World β) := ⟨fun _ _ => rfl, fun _ => rfl⟩

/-- What a backend does takes time only where it waits. -/
structure Backend.KeepsTime {β : Type} (b : Backend β) : Prop where
  build : ∀ identity scope, Work.Changes Work.KeepsTime (b.build identity scope)
  list : ∀ c request, Work.Changes Work.KeepsTime (b.list c request)
  get : ∀ c r, Work.Changes Work.KeepsTime (b.get c r)
  create : ∀ c d, Work.Changes Work.KeepsTime (b.create c d)
  update : ∀ c r d, Work.Changes Work.KeepsTime (b.update c r d)
  delete : ∀ c r, Work.Changes Work.KeepsTime (b.delete c r)

namespace Store
variable {α : Type}

theorem keepsTime_enter (call : RecordedCall) {next : Call Store α}
    (rest : Work.Changes Work.KeepsTime next) : Work.Changes Work.KeepsTime (enter call next) := by
  refine .act (fun _ => rfl) fun w => ?_
  refine (Work.keepsTime_sleep w.backend.delay).bind fun _ => ?_
  split
  · exact .done _
  · exact rest

theorem keepsTime_query (f : Store → Except BackendError α) :
    Work.Changes Work.KeepsTime (query f) :=
  .look (fun _ => rfl) fun _ => .done _

theorem keepsTime_command (f : Store → Except BackendError α × Store) :
    Work.Changes Work.KeepsTime (command f) :=
  .act (fun _ => rfl) fun _ => .done _

/-- The store sets no clock. -/
theorem keepsTime_backend : backend.KeepsTime where
  build identity scope := by
    refine .act (fun _ => rfl) fun w => ?_
    refine (Work.keepsTime_sleep w.backend.buildDelay).bind fun _ => ?_
    refine .look (fun _ => rfl) fun w => ?_
    split
    · exact .done _
    · exact .done _
  list _ _ := keepsTime_enter _ (keepsTime_query _)
  get _ _ := keepsTime_enter _ (keepsTime_query _)
  create _ _ := keepsTime_enter _ (keepsTime_command _)
  update _ _ _ := keepsTime_enter _ (keepsTime_command _)
  delete _ _ := keepsTime_enter _ (keepsTime_command _)

end Store

variable {β α γ : Type}

/-- Acquiring a client takes time only where it waits. -/
theorem Backend.KeepsTime.acquire {b : Backend β} (keeps : b.KeepsTime) (identity : Identity)
    (scope : Scope) : Work.Changes Work.KeepsTime (acquire b identity scope) :=
  changes_acquire ⟨fun _ _ same _ => same, fun _ _ _ first second => second.trans first⟩
    keeps.build identity scope

theorem later?_eq_some_iff {time delay ends : Nat} :
    later? time delay = some ends ↔ time + delay ≤ clockEnd ∧ time + delay = ends := by
  unfold later?
  split
  · next reached => simp [reached]
  · next beyond => simp [beyond]

theorem later?_eq_none_iff {time delay : Nat} :
    later? time delay = none ↔ ¬ time + delay ≤ clockEnd := by
  unfold later?
  split
  · next reached => simp [reached]
  · next beyond => simp [beyond]

namespace Request

/-- A call that is begun at a time is over by a limit: its own limit ends by then, or the deadline
of the request does. Its own limit lies on the clock, unless the call may be endless. -/
structure DueBy (r : Request) (callTimeout : Nat) (endless : Prop) (t limit : Nat) : Prop where
  reached : endless ∨ t + callTimeout ≤ clockEnd
  due : t + callTimeout ≤ limit ∨ ∃ deadline, r.deadline = some deadline ∧ deadline ≤ limit

/-- The end of a call whose own limit ends at a time: that time, or the deadline of the request. -/
def ending (r : Request) (ends : Nat) : Nat :=
  match r.deadline with
  | some d => min ends d
  | none => ends

/-- What comes of a call that is over by a time. It may be later only if it is endless, and then it
fails. -/
def InTime {ε : Type} (endless : Prop) (finish : Nat) (answer : Except ε α) (t : Nat) : Prop :=
  t ≤ finish ∨ (endless ∧ ∃ e, answer = .error e)

variable {r : Request} {callTimeout t limit : Nat} {endless : Prop}

theorem ending_le_iff {ends : Nat} :
    r.ending ends ≤ limit ↔ ends ≤ limit ∨ ∃ deadline, r.deadline = some deadline ∧
      deadline ≤ limit := by
  unfold ending
  cases r.deadline with
  | none => simp
  | some deadline =>
    simp only [Option.some.injEq, exists_eq_left']
    omega

theorem le_ending_iff {ends : Nat} :
    t ≤ r.ending ends ↔ t ≤ ends ∧ ∀ deadline, r.deadline = some deadline → t ≤ deadline := by
  unfold ending
  cases r.deadline with
  | none => simp
  | some deadline =>
    simp only [Option.some.injEq, forall_eq']
    omega

/-- What is begun within a limit and comes in time comes within the limit. -/
theorem InTime.soon {ε : Type} {answer : Except ε α} {finish t' : Nat}
    (ends : InTime endless (max t finish) answer t') (within : finish ≤ limit)
    (begun : Work.Soon endless limit t) : Work.Soon endless limit t' := by
  rcases ends with ends | ⟨allowed, -⟩
  · exact begun.imp_right fun begun => by omega
  · exact .inl allowed

/-- A bounded call is over by the limit, whatever it does. -/
theorem timely_bounded (due : r.DueBy callTimeout endless t limit) (operation : String)
    {call : Call β α} (keeps : Work.Changes Work.KeepsTime call) :
    Work.Timely endless limit (InTime endless (max t limit))
      (r.bounded callTimeout operation call) t := by
  refine .look fun w now => ?_
  subst now
  dsimp only
  split
  · next beyond =>
    -- The end of the call lies beyond the end of the clock.
    have allowed : endless := due.reached.resolve_right (later?_eq_none_iff.mp beyond)
    exact .act (fun _ => rfl) fun _ _ => .wait (fun _ => rfl) (.inl ⟨allowed, fun _ => rfl⟩)
      fun _ _ => .done (.inr ⟨allowed, _, rfl⟩)
  · next ends reached =>
    have within : r.ending ends ≤ limit := by
      rw [← (later?_eq_some_iff.mp reached).2]
      exact ending_le_iff.mpr due.due
    exact (Work.timely_bounded keeps within (Nat.le_trans within (Nat.le_max_right _ _))
      (Nat.le_max_left _ _) _ _ _).mono fun _ _ soon => .inl soon

end Request

/-- A call of the store that is carried out by its limit and by the deadline of its request, or
exactly then, is answered as if there was no bound. -/
theorem run_bounded_of_punctual (r : Request) (callTimeout : Nat) (operation : String)
    (call : RecordedCall) (f : World Store → Except BackendError α × World Store)
    (w : World Store) (short : w.backend.delay ≤ callTimeout)
    (reached : w.now + callTimeout ≤ clockEnd)
    (punctual : ∀ deadline, r.deadline = some deadline → w.now + w.backend.delay ≤ deadline)
    (uncancelled : ∀ t, r.cancelAt = some t → w.now + w.backend.delay < t) :
    (r.bounded callTimeout operation (Store.enter call (Work.step f))).run w =
      (Store.enter call (Work.step f)).run w := by
  have in_time : w.now + w.backend.delay ≤ r.ending (w.now + callTimeout) :=
    Request.le_ending_iff.mpr ⟨by omega, punctual⟩
  have started : cancelled r.cancelAt w = false := by
    cases given : r.cancelAt with
    | none => rfl
    | some t =>
      have after := uncancelled t given
      exact decide_eq_false (show ¬ t ≤ w.now by omega)
  rw [Store.run_enter]
  unfold Request.bounded
  rw [Work.look, Work.run]
  simp only [later?_eq_some_iff.mpr ⟨reached, rfl⟩, id]
  unfold Work.bounded Store.enter
  rw [Work.look, Work.run, id, started, if_neg Bool.false_ne_true, Work.limited, Work.run,
    Work.run_limited_sleep _ _ _ _ in_time uncancelled]
  cases w.backend.failure? call.kind with
  | some e => rfl
  | none => rfl

namespace Gateway
open Work (Over Soon Timely)
variable {g : Gateway β} {r : Request} {endless : Prop} {t limit : Nat}

/-- Two calls that are begun one after another are over by a limit. -/
structure DueBy (g : Gateway β) (r : Request) (endless : Prop) (t limit : Nat) : Prop where
  begun : Soon endless limit t
  calls : ∃ first ≤ limit, r.DueBy g.callTimeout endless t first ∧
    ∀ t' ≤ max t first, r.DueBy g.callTimeout endless t' limit

/-- Two calls take no longer than two limits for calls. -/
theorem dueBy_two_calls (g : Gateway β) (r : Request) (t : Nat)
    (reached : endless ∨ t + 2 * g.callTimeout ≤ clockEnd) :
    g.DueBy r endless t (t + 2 * g.callTimeout) := by
  refine ⟨.inr (Nat.le_add_right _ _), t + g.callTimeout, by omega, ?_, fun t' before => ?_⟩
  · exact ⟨reached.imp_right fun reached => by omega, .inl (Nat.le_refl _)⟩
  · exact ⟨reached.imp_right fun reached => by omega, .inl (by omega)⟩

/-- All calls of a request are over by its deadline. -/
theorem dueBy_deadline {deadline : Nat} (given : r.deadline = some deadline)
    (reached : endless ∨ deadline + g.callTimeout ≤ clockEnd) (begun : Soon endless deadline t) :
    g.DueBy r endless t deadline := by
  have by_deadline (t' : Nat) (soon : Soon endless deadline t') :
      r.DueBy g.callTimeout endless t' deadline := by
    refine ⟨?_, .inr ⟨deadline, given, Nat.le_refl _⟩⟩
    rcases reached with allowed | reached
    · exact .inl allowed
    · exact soon.imp_right fun soon => by omega
  refine ⟨begun, deadline, Nat.le_refl _, by_deadline t begun, fun t' before => ?_⟩
  exact by_deadline t' (begun.imp_right fun begun => by omega)

theorem timely_stage {s : Stage} {call : Call β α} {finish : Nat}
    (timely : Timely endless limit (Request.InTime endless finish) call t) :
    Timely endless limit (Request.InTime endless finish) (stage s call) t := by
  refine timely.bind (Nat.le_refl limit) ?_
  rintro (e | a) t' soon
  · exact .done (soon.imp_right fun failed => ⟨failed.1, _, rfl⟩)
  · refine .done (.inl ?_)
    rcases soon with soon | ⟨-, e, failed⟩
    · exact soon
    · cases failed

/-- Work with the client of a caller. -/
theorem timely_next (keeps : g.backend.KeepsTime) (due : g.DueBy r endless t limit)
    {k : Client → Operation β α}
    (rest : ∀ c t', Soon endless limit t' → r.DueBy g.callTimeout endless t' limit →
      Over endless limit (k c) t') :
    Over endless limit (next (g.client r) k) t := by
  obtain ⟨begun, first, within, soon, second⟩ := due
  have client : Timely endless first (Request.InTime endless (max t first)) (g.client r) t :=
    timely_stage (Request.timely_bounded soon "client" (keeps.acquire r.identity r.scope))
  refine client.bind within ?_
  rintro (e | c) t' ends
  · exact .done (ends.soon within begun)
  · rcases ends with ends | ⟨-, e, failed⟩
    · exact rest c t' (begun.imp_right fun begun => by omega) (second t' ends)
    · cases failed

/-- One call with a client, and what is made of its answer. -/
theorem timely_call (begun : Soon endless limit t) (due : r.DueBy g.callTimeout endless t limit)
    (s : Stage) (operation : String) {call : Call β α}
    (keeps : Work.Changes Work.KeepsTime call) (remodel : α → Except Failure γ) :
    Over endless limit (next (stage s (r.bounded g.callTimeout operation call)) fun a =>
      .done (remodel a)) t := by
  refine (timely_stage (Request.timely_bounded due operation keeps)).bind (Nat.le_refl limit) ?_
  rintro (e | a) t' ends
  · exact .done (ends.soon (Nat.le_refl limit) begun)
  · exact .done (ends.soon (Nat.le_refl limit) begun)

section Operations
variable (keeps : g.backend.KeepsTime) (due : g.DueBy r endless t limit)
include keeps due

theorem timely_get (reference : Reference) : Over endless limit (g.get r reference) t :=
  timely_next keeps due fun c _ begun due =>
    timely_call begun due .get "get" (keeps.get c reference) _

theorem timely_definition (name : String) : Over endless limit (g.definition r name) t :=
  timely_next keeps due fun c _ begun due => timely_call begun due .get "get" (keeps.get c _) _

theorem timely_list (request : ListRequest) (remodel : Document → Except Failure α)
    (key : α → NodeKey) : Over endless limit (g.list r request remodel key) t :=
  timely_next keeps due fun c _ begun due =>
    timely_call begun due .list "list" (keeps.list c request) _

theorem timely_create (raw : String) (patches : List Patch) :
    Over endless limit (g.create r raw patches) t := by
  unfold create
  cases Document.prepare raw patches with
  | error e => exact .done due.begun
  | ok d =>
    exact timely_next keeps due fun c _ begun due =>
      timely_call begun due .create "create" (keeps.create c d) _

theorem timely_update (reference : Reference) (raw : String) (patches : List Patch) :
    Over endless limit (g.update r reference raw patches) t := by
  unfold update
  cases Document.prepare raw patches with
  | error e => exact .done due.begun
  | ok d =>
    exact timely_next keeps due fun c _ begun due =>
      timely_call begun due .update "update" (keeps.update c reference d) _

theorem timely_delete (reference : Reference) : Over endless limit (g.delete r reference) t := by
  refine timely_next keeps due fun c _ begun due => ?_
  cases Resource.ofDocument (Document.ofReference reference) with
  | error e => exact .done begun
  | ok snapshot => exact timely_call begun due .delete "delete" (keeps.delete c reference) _

/-- Whatever the gateway offers is over by the limit. -/
theorem Offers.timely {operation : Operation β α} (offers : g.Offers r operation) :
    Over endless limit operation t := by
  cases offers with
  | get reference => exact timely_get keeps due reference
  | definition name => exact timely_definition keeps due name
  | list request remodel key => exact timely_list keeps due request remodel key
  | create raw patches => exact timely_create keeps due raw patches
  | update reference raw patches => exact timely_update keeps due reference raw patches
  | delete reference => exact timely_delete keeps due reference

/-- Every operation is over by the limit. -/
theorem timely_perform (e : Errand) : Over endless limit (g.perform r e) t := by
  have wrapped {α : Type} {operation : Operation β α} (offers : g.Offers r operation)
      (wrap : α → Answer) :
      Over endless limit (next operation fun x => .done (.ok (wrap x))) t := by
    refine (offers.timely keeps due).bind (Nat.le_refl limit) ?_
    rintro (e | a) t' soon
    · exact .done soon
    · exact .done soon
  cases e with
  | get reference => exact wrapped (.get reference) _
  | definition name => exact wrapped (.definition name) _
  | definitions => exact wrapped (.list _ _ _) _
  | resources d version nspace => exact wrapped (.list _ _ _) _
  | create raw patches => exact wrapped (.create raw patches) _
  | update reference raw patches => exact wrapped (.update reference raw patches) _
  | delete reference => exact wrapped (.delete reference) _

end Operations
end Gateway
end ClusterGraph
