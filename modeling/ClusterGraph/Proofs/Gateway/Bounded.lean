import ClusterGraph.Proofs.Gateway.Duration
import ClusterGraph.Proofs.Gateway.Errand
import ClusterGraph.Proofs.Store.Confinement
import ClusterGraph.Proofs.Work.Race

/-!
# Bounded calls as a race

A call of a request is bounded by its own limit, by the deadline of the request and by its
cancellation. If the call runs alone and waits for nothing but its own timers, what comes of it is
settled by the rival that comes first, after exactly the time at which that one comes
(`Request.bounded_is_race`). A call of the store that loses the race has been recorded, and has not
touched the objects.

The limit of a call has to be a time that the clock reaches. A longer one ends everything, even if
the call itself would be over at once (`Request.no_race_beyond_clock`).
-/
namespace ClusterGraph

namespace Request
variable {β α : Type} {limit : Nat} {w : World β}

/-- How long a bounded call may take: its own limit, or what is left until the deadline of the
request. -/
def budget (r : Request) (limit now : Nat) : Nat :=
  match r.deadline with
  | some d => min limit (d - now)
  | none => limit

def race (r : Request) (limit : Nat) (call : Call β α) (w : World β) : Race :=
  ⟨call.takes? w, r.cancelAt.map (· - w.now), r.budget limit w.now⟩

theorem race_eq (r : Request) (limit : Nat) (call : Call β α) (w : World β) :
    r.race limit call w = call.race r.cancelAt (r.ending (w.now + limit)) w := by
  have left : r.budget limit w.now = r.ending (w.now + limit) - w.now := by
    unfold budget ending
    cases r.deadline with
    | none => exact (Nat.add_sub_cancel_left w.now limit).symm
    | some d =>
      dsimp only
      omega
  rw [race, left]
  rfl

theorem run_bounded_of_reached (r : Request) (operation : String) (call : Call β α)
    (reached : w.now + limit ≤ clockEnd) :
    (r.bounded limit operation call).run w =
      (call.bounded r.cancelAt (r.ending (w.now + limit))
        (.error (.timeout (operation ++ ": request cancelled")))
        (.error (.timeout (operation ++ ": deadline exceeded")))).run w := by
  unfold bounded
  rw [Work.look, Work.run]
  simp only [later?_eq_some_iff.mpr ⟨reached, rfl⟩]
  rfl

theorem run_bounded_of_beyond (r : Request) (operation : String) (call : Call β α)
    (beyond : ¬ w.now + limit ≤ clockEnd) :
    (r.bounded limit operation call).run w = (none, { w with halted := true }) := by
  unfold bounded
  rw [Work.look, Work.run]
  simp only [later?_eq_none_iff.mpr beyond]
  simp [World.halt, Work.stuck, Work.run, Work.upcoming]

end Request

/-! ## Calls of the store -/

namespace Store
variable {α γ : Type}

theorem timed_query (f : Store → Except BackendError α) (w : World Store) : (query f).Timed w :=
  .act rfl (.done _ _)

theorem timed_command (f : Store → Except BackendError α × Store) (w : World Store) :
    (command f).Timed w :=
  .act rfl (.done _ _)

def carriedOut (call : RecordedCall) (work : Call Store α) (w : World Store) : Call Store α :=
  match w.backend.failure? call.kind with
  | some e => .done (.error e)
  | none => work

theorem timed_carriedOut (call : RecordedCall) {work : Call Store α} (timed : ∀ v, work.Timed v)
    (w v : World Store) : (carriedOut call work w).Timed v := by
  unfold carriedOut
  cases w.backend.failure? call.kind with
  | some e => exact .done _ _
  | none => exact timed v

/-- A call is recorded before its pause. -/
theorem enter_bind (call : RecordedCall) (work : Call Store α)
    (k : Except BackendError α → Call Store γ) :
    (enter call work).bind k = .act (World.mapBackend fun s => s.record call) fun w =>
      (Work.sleep w.backend.delay).bind fun _ => (carriedOut call work w).bind k := by
  unfold enter
  rw [Work.bind]
  simp only [Work.bind_assoc]
  rfl

end Store

namespace RecordedCall

/-- A call of a client is recorded, takes its time, and then does what it does without waiting. -/
theorem made_eq (c : Client) (call : RecordedCall) :
    ∃ next : World Store → Call Store (List Document),
      call.made c = .act (World.mapBackend fun s => s.record call)
        (fun w => (Work.sleep w.backend.delay).bind fun _ => next w) ∧
      ∀ w v, (next w).Timed v := by
  have given {α : Type} (work : Call Store α) (timed : ∀ v, work.Timed v)
      (form : α → List Document) (w v : World Store) :
      ((Store.carriedOut call work w).bind fun a => .done (a.map form)).Timed v :=
    (Store.timed_carriedOut call timed w v).bind fun _ _ _ => .done _ _
  cases call with
  | list request =>
    exact ⟨Store.carriedOut _ _, rfl, Store.timed_carriedOut _ (Store.timed_query _)⟩
  | get r => exact ⟨_, Store.enter_bind _ _ _, given _ (Store.timed_query _) _⟩
  | create d => exact ⟨_, Store.enter_bind _ _ _, given _ (Store.timed_command _) _⟩
  | update r d => exact ⟨_, Store.enter_bind _ _ _, given _ (Store.timed_command _) _⟩
  | delete r => exact ⟨_, Store.enter_bind _ _ _, given _ (Store.timed_command _) _⟩

variable {c : Client} {call : RecordedCall} {w : World Store}

theorem timed_made (c : Client) (call : RecordedCall) (w : World Store) :
    (call.made c).Timed w := by
  obtain ⟨next, same, timed⟩ := made_eq c call
  rw [same]
  exact .act rfl ((Work.timed_sleep _ _).bind fun _ v _ => timed w v)

/-- A call takes as long as the store is told. -/
theorem takes?_made (c : Client) (call : RecordedCall) (w : World Store) :
    (call.made c).takes? w = some w.backend.delay := by
  refine Work.takes?_eq_some_iff.mpr ?_
  rw [run_made]
  dsimp only
  cases w.backend.failure? call.kind with
  | some e => exact ⟨_, _, rfl, Nat.add_sub_cancel_left _ _⟩
  | none => exact ⟨_, _, rfl, Nat.add_sub_cancel_left _ _⟩

/-- A call that is abandoned has been recorded, and has done nothing else. -/
theorem runUntil_made {cancelAt : Option Nat} {last : Nat}
    (begun : Work.MayGoOn cancelAt last w.now)
    (stopped : ¬ Work.MayGoOn cancelAt last (w.now + w.backend.delay)) :
    ((call.made c).runUntil cancelAt last w).2.backend = w.backend.record call := by
  obtain ⟨next, same, -⟩ := made_eq c call
  let recorded := World.mapBackend (fun s => s.record call) w
  have paused := Work.runUntil_sleep (s := recorded) begun stopped fun _ => next w
  rw [same, Work.runUntil]
  exact congrArg (fun outcome => outcome.2.backend) paused

end RecordedCall

/-! ## What comes of a bounded call -/

namespace Request

/-- What is left of a bounded call that is abandoned. -/
def abandoned (r : Request) (limit : Nat) (call : Call β α) (w : World β) : World β :=
  (call.runUntil r.cancelAt (Work.lastMoment (r.ending (w.now + limit)) w) w).2

theorem run_bounded_of_untied {call : Call β α} (r : Request) (operation : String)
    (timed : call.Timed w) (untied : (r.race limit call w).Untied)
    (reached : w.now + limit ≤ clockEnd) :
    (r.bounded limit operation call).run w =
        (match (r.race limit call w).verdict with
          | .unbegun => (some (.error (.timeout (operation ++ ": request cancelled"))), w)
          | .finished => call.run w
          | .cancelled => (some (.error (.timeout (operation ++ ": request cancelled"))),
              r.abandoned limit call w)
          | .late => (some (.error (.timeout (operation ++ ": deadline exceeded"))),
              r.abandoned limit call w)) ∧
      ((r.bounded limit operation call).run w).2.now =
        w.now + (r.race limit call w).length := by
  rw [run_bounded_of_reached r operation call reached]
  rw [race_eq] at untied ⊢
  exact timed.run_bounded untied _ _

/-- A call of a store that is abandoned has been recorded, and has not touched the objects. -/
theorem abandoned_made {r : Request} {c : Client} {call : RecordedCall} {w : World Store}
    (uncancelled : ¬ cancelled r.cancelAt w = true)
    (lost : (r.race limit (call.made c) w).verdict ≠ .finished) :
    (r.abandoned limit (call.made c) w).backend = w.backend.record call := by
  have begun := Work.mayGoOn_of_not_cancelled (r.ending (w.now + limit)) uncancelled
  refine RecordedCall.runUntil_made begun fun inTime => lost ?_
  obtain ⟨answer, v, ran, takes⟩ := Work.takes?_eq_some_iff.mp (RecordedCall.takes?_made c call w)
  rw [race_eq]
  refine (RecordedCall.timed_made c call w).verdict_eq_finished uncancelled ran ?_
  have after := (RecordedCall.timed_made c call w).now_le ran
  have ends : Clocked.now v = w.now + w.backend.delay := by
    change Clocked.now v - w.now = _ at takes
    change w.now ≤ _ at after
    omega
  rwa [ends]

/-- A bounded call that runs alone and waits for its own timers comes to what the first of its
rivals makes of it, after the time at which that one comes, if the clock reaches its limit. If it
loses the race it has not touched the objects of a store. -/
theorem bounded_is_race (r : Request) (limit : Nat) (operation : String) :
    (∀ {β α : Type} (call : Call β α) (w : World β), call.Timed w →
      (r.race limit call w).Untied → w.now + limit ≤ clockEnd →
        let ended := (r.bounded limit operation call).run w
        (ended = match (r.race limit call w).verdict with
          | .unbegun => (some (.error (.timeout (operation ++ ": request cancelled"))), w)
          | .finished => call.run w
          | .cancelled => (some (.error (.timeout (operation ++ ": request cancelled"))),
              r.abandoned limit call w)
          | .late => (some (.error (.timeout (operation ++ ": deadline exceeded"))),
              r.abandoned limit call w)) ∧
        ended.2.now = w.now + (r.race limit call w).length) ∧
    ∀ (c : Client) (call : RecordedCall) (w : World Store),
      (r.race limit (call.made c) w).Untied → w.now + limit ≤ clockEnd →
        (r.race limit (call.made c) w).verdict ≠ .finished →
          let ended := (r.bounded limit operation (call.made c)).run w
          ended.2.backend.objects = w.backend.objects ∧
            ended.2.backend =
              if (r.race limit (call.made c) w).verdict = .unbegun then w.backend
              else w.backend.record call := by
  refine ⟨fun call w => run_bounded_of_untied r operation, fun c call w untied reached lost => ?_⟩
  dsimp only
  rw [(run_bounded_of_untied r operation (RecordedCall.timed_made c call w) untied reached).1]
  by_cases beforehand : cancelled r.cancelAt w = true
  · have unbegun : (r.race limit (call.made c) w).verdict = .unbegun := by
      rw [race_eq]
      exact Work.verdict_eq_unbegun_iff.mpr beforehand
    rw [unbegun]
    exact ⟨rfl, rfl⟩
  · have left := abandoned_made beforehand lost
    cases verdict : (r.race limit (call.made c) w).verdict with
    | unbegun =>
      rw [race_eq] at verdict
      exact absurd (Work.verdict_eq_unbegun_iff.mp verdict) beforehand
    | finished => exact absurd verdict lost
    | cancelled | late =>
      dsimp only
      rw [left]
      exact ⟨rfl, rfl⟩

/-- A store with one widget that takes fifty milliseconds for a call. -/
def slowWidget : World Store :=
  World.start ⟨0, 0⟩ (Cache.empty 600000 256)
    { Store.empty with objects := [RecordedCall.widgetOf "team-a"], delay := 50 }

/-- A request whose deadline comes before it is cancelled. -/
def hurried : Request := ⟨⟨.bearer "token-a", none⟩, ⟨some "team-a"⟩, some 20, some 35⟩

def removal : Call Store (List Document) :=
  RecordedCall.made (RecordedCall.clientOf "team-a")
    (.delete ⟨"example.io/v1", "Widget", some "team-a", "w"⟩)

theorem bounded_is_race_of_hurried :
    removal.Timed slowWidget ∧ (hurried.race 30 removal slowWidget).Untied ∧
      slowWidget.now + 30 ≤ clockEnd ∧ (hurried.race 30 removal slowWidget).verdict = .late ∧
      let ended := (hurried.bounded 30 "delete" removal).run slowWidget
      ended.1 = some (.error (.timeout "delete: deadline exceeded")) ∧ ended.2.now = 20 ∧
        ended.2.backend.objects = [RecordedCall.widgetOf "team-a"] := by
  have timed : removal.Timed slowWidget := RecordedCall.timed_made _ _ _
  have rivals : hurried.race 30 removal slowWidget = ⟨some 50, some 35, 20⟩ := by
    unfold race removal
    rw [RecordedCall.takes?_made]
    rfl
  have late : (hurried.race 30 removal slowWidget).verdict = .late := by
    rw [rivals]
    decide
  have untied : (hurried.race 30 removal slowWidget).Untied := by
    rw [rivals]
    rintro c ⟨⟩ -
    decide
  have reached : slowWidget.now + 30 ≤ clockEnd := by decide +kernel
  obtain ⟨settled, kept⟩ := bounded_is_race hurried 30 "delete"
  obtain ⟨ended, elapsed⟩ := settled removal slowWidget timed untied reached
  refine ⟨timed, untied, reached, late, ?_, ?_, ?_⟩
  · rw [ended, late]
    rfl
  · rw [elapsed, rivals]
    decide
  · exact (kept _ _ slowWidget untied reached fun won => nomatch late.symm.trans won).1

/-- Work that is over at once has no answer if the clock does not reach the limit of the call. -/
theorem no_race_beyond_clock :
    let atOnce : Call Store Nat := .done (.ok 7)
    let limit := 18446744073709551615 * 1000
    (hurried.race limit atOnce slowWidget).verdict = .finished ∧
      (atOnce.run slowWidget).1 = some (.ok 7) ∧
      ((hurried.bounded limit "delete" atOnce).run slowWidget).1 = none := by
  refine ⟨by decide +kernel, rfl, ?_⟩
  rw [run_bounded_of_beyond hurried "delete" _ (by decide +kernel)]

end Request
end ClusterGraph
