import ClusterGraph.Proofs.Gateway.Exhausted
import ClusterGraph.Proofs.Query.Succession

/-!
# Mutations that run out of time

All fields of a mutation share the deadline of its request. When the deadline comes while a field is
resolved, the later ones are resolved all the same, and each of them starts a build or makes a call
unless its document cannot be prepared: it is only after a cancellation, or for a caller that is
unwelcome, that nothing is started (`Setting.exhausted_starts_nothing_iff`). No time passes any
more, so what is started then is abandoned if it does not end at once.
-/
namespace ClusterGraph
namespace Query
namespace Setting

/-- Once the deadline of a mutation has come, the fields that are left start no build and make no
call exactly if the request is turned away, or if all of them ask for mutations without a document.
Whether its deadline has come or not, a request that is turned away starts nothing. After the
deadline no time passes, and a store that delays its calls changes no object. -/
theorem exhausted_starts_nothing_iff (s : Setting Store) (w : World Store)
    (callTimeout requestTimeout deadline : Nat)
    (gateway : s.gateway = Gateway.ofStore callTimeout requestTimeout)
    (caller : ClusterGraph.Request) (given : s.caller? = some caller)
    (limit : caller.deadline = some deadline) (reached : deadline + callTimeout ≤ clockEnd)
    (opened : w.Open caller deadline) (mutates : s.plan.operation.kind = .mutation)
    (distinct : (s.plan.fields.map PlannedField.key).Nodup) (before later : List PlannedField)
    (fields : s.plan.fields = before ++ later) (fits : s.misfit? before = none) :
    ∃ answers v response u,
      s.gateway.inTurn caller (s.mutations before) w = (some answers, v) ∧ v.now ≤ deadline ∧
      s.response w = (some response, u) ∧
      (caller.IsTurnedAway v → v.StartsNothing u) ∧
      (v.now = deadline → u.now = deadline ∧
        (v.StartsNothing u ↔
          caller.IsTurnedAway v ∨ ∀ m ∈ s.mutations later, m.IsUnprepared) ∧
        (v.backend.delay ≠ 0 → u.backend.objects = v.backend.objects)) := by
  obtain ⟨answers, v, first, there, -, -, -⟩ :=
    Gateway.inTurn_starts requestTimeout limit reached opened (s.mutations before)
  obtain ⟨more, u, second, last, on, refused, starts⟩ :=
    Gateway.inTurn_starts requestTimeout limit reached there (s.mutations later)
  have whole : s.gateway.inTurn caller (s.mutations s.plan.fields) w =
      (some (answers ++ more), u) := by
    rw [gateway, fields, s.mutations_append fits]
    exact Gateway.inTurn_append first second
  have response := s.response_of_mutation mutates distinct given whole
  refine ⟨answers, v, _, u, gateway ▸ first, there.begun, response, refused, fun late => ?_⟩
  have before := on.now
  have after := last.begun
  refine ⟨by omega, starts late, fun slow => ?_⟩
  rcases on.objects with same | carried
  · exact same
  · omega

/-! ## A build that takes too long -/

/-- A session with an empty store in which it takes twenty milliseconds to build a client. -/
def laborious : World Store :=
  World.start ⟨0, 0⟩ (Cache.empty 600000 256) { Store.empty with buildDelay := 20 }

/-- A caller whose time is over after ten milliseconds. -/
def hasty : ClusterGraph.Request := ⟨⟨.bearer "token-a", none⟩, ⟨none⟩, some 10, none⟩

def fickle : ClusterGraph.Request := ⟨⟨.bearer "token-a", none⟩, ⟨none⟩, none, some 10⟩

/-- A field that deletes a widget, and asks for its name. -/
def removal (key : String) : PlannedField :=
  .mk .start key "deleteResource"
    [⟨.start, "reference", .start, .object [("apiVersion", .string "example.io/v1"),
      ("kind", .string "Widget"), ("namespace", .string "a"), ("name", .string "w")]⟩]
    [.mk .start "name" "name" [] []]

def removing (caller : ClusterGraph.Request) (fields : List PlannedField) : Setting Store where
  gateway := Gateway.ofStore 30000 60000
  caller? := some caller
  plan :=
    { operation := ⟨.start, .mutation, none, [], [], .start, []⟩
      values := []
      fields := fields }

/-- The client of the first deletion is not built in time. The second one has another one built. -/
theorem exhausted_starts_nothing_iff_of_removals :
    ∃ answers v response u,
      (removing hasty [removal "first", removal "second"]).gateway.inTurn hasty
        ((removing hasty [removal "first", removal "second"]).mutations [removal "first"])
        laborious = (some answers, v) ∧ v.now = 10 ∧
      (removing hasty [removal "first", removal "second"]).response laborious =
        (some response, u) ∧ u.now = 10 ∧ ¬ v.StartsNothing u := by
  have opened : laborious.Open hasty 10 := by
    constructor
    · decide
    · decide
    · exact Cache.idle_empty 600000 256 .asCame hasty.key 0
  obtain ⟨answers, v, response, u, first, -, whole, -, late⟩ := exhausted_starts_nothing_iff
    (removing hasty [removal "first", removal "second"]) laborious 30000 60000 10 rfl hasty rfl rfl
    (by decide) opened rfl (by decide) [removal "first"] [removal "second"] rfl rfl
  have clock : ((removing hasty [removal "first", removal "second"]).gateway.inTurn hasty
      ((removing hasty [removal "first", removal "second"]).mutations [removal "first"])
      laborious).2.now = 10 := by
    change ((Gateway.ofStore 30000 60000).inTurn hasty
      [.delete ⟨"example.io/v1", "Widget", some "a", "w"⟩] laborious).2.now = 10
    unfold Gateway.inTurn
    rw [Work.run_eq_runBy]
    decide +kernel
  rw [first] at clock
  obtain ⟨still, starts, -⟩ := late clock
  refine ⟨answers, v, response, u, first, clock, whole, still, ?_⟩
  rw [starts]
  rintro ((cancelled_ | blank | expired) | unprepared)
  · cases cancelled_
  · cases blank
  · cases expired
  · exact unprepared (.delete ⟨"example.io/v1", "Widget", some "a", "w"⟩) List.mem_cons_self

/-- A field has failed since the deadline of its request was exceeded, and the next one has a client
built all the same. It has none built if the request is cancelled then. -/
theorem builds_after_deadline :
    ((removing hasty [removal "first"]).response laborious).1.map
        (fun r => r.errors.map ResponseError.message) =
      some ["unable to acquire backend client: timeout: client: deadline exceeded"] ∧
    ((removing hasty [removal "first"]).response laborious).2.now = 10 ∧
    ((removing hasty [removal "first"]).response laborious).2.backend.builds = 1 ∧
    ((removing hasty [removal "first", removal "second"]).response laborious).2.backend.builds = 2 ∧
    ((removing fickle [removal "first", removal "second"]).response laborious).2.backend.builds =
      1 := by
  unfold response
  simp only [Work.run_eq_runBy]
  decide +kernel

end Setting
end Query
end ClusterGraph
