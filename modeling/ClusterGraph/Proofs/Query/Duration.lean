import ClusterGraph.Proofs.Gateway.Duration
import ClusterGraph.Proofs.Query.Composition

/-!
# How long requests take

However many fields a request has, however deep they are nested, and whether they are resolved side
by side or one after another, each call that is made for it is over by the deadline of its caller.
So the clock does not lead past that deadline while the request is executed
(`Query.deadline_caps_request`).
-/
namespace ClusterGraph
namespace Query
open Work (Capped capped_done)
variable {β α : Type}

instance : LawfulClock (Execution β) := ⟨fun _ _ => rfl, fun _ => rfl⟩

namespace Setting
variable {s : Setting β} {endless : Prop} {deadline : Nat}

/-- The caller of a request, if it has one, has a deadline. -/
def Dated (s : Setting β) (deadline : Nat) : Prop :=
  ∀ caller, s.caller? = some caller → caller.deadline = some deadline

/-- What is composed of operations of the gateway is over by the deadline of the caller. -/
theorem Composed.capped {w : Work (Execution β) α} (composed : Composed s w)
    (keeps : s.gateway.backend.KeepsTime) (dated : s.Dated deadline)
    (reached : endless ∨ deadline + s.gateway.callTimeout ≤ clockEnd) :
    Capped endless deadline w := by
  induction composed with
  | done a => exact capped_done a
  | leave e _ ih => exact Work.capped_act (fun _ => rfl) ih
  | @operation α caller given operation offers =>
    intro t begun
    have due := Gateway.dueBy_deadline (dated caller given) reached begun
    exact (offers.timely keeps due).within Execution.world (fun w x => { x with world := w })
      (fun _ => rfl) fun _ _ => rfl
  | bind _ _ first rest => exact first.bind rest
  | tryAll _ each => exact Work.capped_tryAll each

/-- All that is done for a plan is over by the deadline of its caller. -/
theorem capped_run (keeps : s.gateway.backend.KeepsTime) (dated : s.Dated deadline)
    (reached : endless ∨ deadline + s.gateway.callTimeout ≤ clockEnd) :
    Capped endless deadline s.run :=
  s.composed_run.capped keeps dated reached

theorem capped_plan {g : Gateway β} {caller : ClusterGraph.Request} (keeps : g.backend.KeepsTime)
    (given : caller.deadline = some deadline)
    (reached : endless ∨ deadline + g.callTimeout ≤ clockEnd) (plan : Plan) :
    Capped endless deadline (Setting.run ⟨g, some caller, plan⟩) := by
  refine Setting.capped_run keeps ?_ reached
  rintro _ ⟨⟩
  exact given

end Setting

section Store
variable (callTimeout requestTimeout : Nat) {endless : Prop} {t : Nat}

/-- All that is done for a plan on behalf of a caller is over by its deadline. -/
theorem timely_plan {caller : ClusterGraph.Request} {deadline : Nat}
    (given : caller.deadline = some deadline) (begun : t ≤ deadline)
    (reached : endless ∨ deadline + callTimeout ≤ clockEnd) (plan : Plan) :
    Work.Over endless deadline
      (Setting.run ⟨.ofStore callTimeout requestTimeout, some caller, plan⟩) t :=
  Setting.capped_plan Store.keepsTime_backend given reached plan t (.inr begun)

/-- An operation is over after two limits for calls. -/
theorem timely_operation (reached : endless ∨ t + 2 * callTimeout ≤ clockEnd)
    (r : ClusterGraph.Request) (e : Errand) :
    Work.Over endless (t + 2 * callTimeout)
      ((Gateway.ofStore callTimeout requestTimeout).perform r e) t :=
  Gateway.timely_perform Store.keepsTime_backend
    (Gateway.dueBy_two_calls (.ofStore callTimeout requestTimeout) r t reached) e

/-- Operations side by side are over after two limits for calls. -/
theorem timely_operations (reached : endless ∨ t + 2 * callTimeout ≤ clockEnd)
    (asked : List (ClusterGraph.Request × Errand)) :
    Work.Over endless (t + 2 * callTimeout)
      (Work.all (asked.map fun a =>
        (Gateway.ofStore callTimeout requestTimeout).perform a.1 a.2)) t := by
  refine Work.timely_all (.inr (Nat.le_add_right _ _)) fun work member => ?_
  obtain ⟨⟨r, e⟩, -, rfl⟩ := List.mem_map.mp member
  exact timely_operation callTimeout requestTimeout reached r e

end Store

/-- The deadline of a caller caps all that is done for its request: no state that is gone through
lies after it. Each operation of the gateway, and any number of them side by side, takes at most two
limits for calls. All of them come to their end, unless the clock does before. A call that is
carried out exactly at the deadline is still answered. -/
theorem deadline_caps_request (callTimeout requestTimeout : Nat) :
    (∀ (caller : ClusterGraph.Request) (deadline : Nat) (q : Request) (w : World Store),
      caller.deadline = some deadline → w.now ≤ deadline →
      let answered := respond (.ofStore callTimeout requestTimeout) (some caller) q w
      answered.2.now ≤ deadline ∧
      (deadline + callTimeout ≤ clockEnd → answered.1.isSome = true) ∧
      ∀ plan, q.plan Schema.cluster = .ok plan →
        ∀ x ∈ (Setting.run ⟨.ofStore callTimeout requestTimeout, some caller, plan⟩).course ⟨w, []⟩,
          x.world.now ≤ deadline) ∧
    (∀ (r : ClusterGraph.Request) (e : Errand) (w : World Store),
      let ended := ((Gateway.ofStore callTimeout requestTimeout).perform r e).run w
      ended.2.now ≤ w.now + 2 * callTimeout ∧
      (w.now + 2 * callTimeout ≤ clockEnd → ended.1.isSome = true)) ∧
    (∀ (asked : List (ClusterGraph.Request × Errand)) (w : World Store),
      let ended := (Work.all (asked.map fun a =>
        (Gateway.ofStore callTimeout requestTimeout).perform a.1 a.2)).run w
      ended.2.now ≤ w.now + 2 * callTimeout ∧
      (w.now + 2 * callTimeout ≤ clockEnd → ended.1.isSome = true)) ∧
    ∀ (α : Type) (r : ClusterGraph.Request) (operation : String) (call : RecordedCall)
      (f : World Store → Except BackendError α × World Store) (w : World Store),
      w.backend.delay ≤ callTimeout → w.now + callTimeout ≤ clockEnd →
      r.deadline = some (w.now + w.backend.delay) → r.cancelAt = none →
      (r.bounded callTimeout operation (Store.enter call (Work.step f))).run w =
        (Store.enter call (Work.step f)).run w := by
  refine ⟨fun caller deadline q w given begun => ⟨?_, fun reached => ?_, fun plan _ => ?_⟩,
    fun r e w => ⟨?_, fun reached => ?_⟩, fun asked w => ⟨?_, fun reached => ?_⟩,
    fun α r operation call f w short reached punctual uncancelled => ?_⟩
  · unfold respond
    split
    · exact begun
    · next plan _ =>
      have timely := timely_plan callTimeout requestTimeout given begun (.inl trivial) plan
      exact timely.run (s := (⟨w, []⟩ : Execution Store)) begun
  · unfold respond
    split
    · rfl
    · next plan _ =>
      have finite : False ∨ deadline + callTimeout ≤ clockEnd := .inr reached
      have timely := timely_plan callTimeout requestTimeout given begun finite plan
      have ended := timely.answered (s := (⟨w, []⟩ : Execution Store)) not_false
      simpa using ended
  · have timely := timely_plan callTimeout requestTimeout given begun (.inl trivial) plan
    exact timely.course (s := (⟨w, []⟩ : Execution Store)) begun
  · exact (timely_operation _ _ (.inl trivial) r e).run (Nat.le_add_right _ _)
  · exact (timely_operation _ _ (.inr reached) r e).answered not_false
  · exact (timely_operations _ _ (.inl trivial) asked).run (Nat.le_add_right _ _)
  · exact (timely_operations _ _ (.inr reached) asked).answered not_false
  · refine run_bounded_of_punctual r callTimeout operation call f w short reached ?_ ?_
    · rw [punctual]
      rintro _ ⟨⟩
      exact Nat.le_refl _
    · rw [uncancelled]
      rintro _ ⟨⟩

def widget : Reference := ⟨"example.io/v1", "Widget", none, "w"⟩

/-- A session with the widget, whose calls take five seconds. -/
def slow : World Store :=
  World.start ⟨0, 0⟩ (Cache.empty 600000 256)
    { Store.empty with objects := [Document.ofReference widget], delay := 5000 }

/-- A caller who waits for as long as one call takes. -/
def patient : ClusterGraph.Request := ⟨⟨.bearer "token-a", none⟩, ⟨none⟩, some 5000, none⟩

def counting : Request := ⟨"\x7b customResourceDefinitions \x7b totalCount \x7d \x7d", none, []⟩

/-- The call of the caller ends with the deadline, and it is answered. -/
theorem deadline_caps_request_of_slow :
    patient.deadline = some 5000 ∧ slow.now ≤ 5000 ∧ 5000 + 30000 ≤ clockEnd ∧
      (respond (.ofStore 30000 60000) (some patient) counting slow).2.now ≤ 5000 ∧
      (respond (.ofStore 30000 60000) (some patient) counting slow).1.isSome = true ∧
      (((Gateway.ofStore 2000 60000).perform patient (.get widget)).run slow).2.now ≤ 4000 ∧
      patient.deadline = some (slow.now + slow.backend.delay) ∧
      ((patient.bounded 30000 "get" (Store.backend.get ⟨1, patient.identity, ⟨none⟩⟩ widget)).run
        slow).1 = some (.ok (Document.ofReference widget)) := by
  have capped := (deadline_caps_request 30000 60000).1 patient 5000 counting slow rfl (by decide)
  refine ⟨rfl, by decide, by decide, capped.1, capped.2.1 (by decide), ?_, rfl, ?_⟩
  · exact ((deadline_caps_request 2000 60000).2.1 patient (.get widget) slow).1
  · have answered : (patient.bounded 30000 "get"
          (Store.backend.get ⟨1, patient.identity, ⟨none⟩⟩ widget)).run slow =
        (Store.backend.get ⟨1, patient.identity, ⟨none⟩⟩ widget).run slow :=
      (deadline_caps_request 30000 60000).2.2.2 Document patient "get" (.get widget)
        (fun w => (w.backend.get none widget, w)) slow (by decide) (by decide) rfl rfl
    rw [answered]
    exact congrArg Prod.fst (Store.run_enter (.get widget) _ slow)

end Query
end ClusterGraph
