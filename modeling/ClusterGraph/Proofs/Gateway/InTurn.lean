import ClusterGraph.Proofs.Gateway.Prompt

/-!
# Mutations in turn

Mutations can be asked of the gateway one after another, each in the session that the one before it
has left, whether that one failed or not (`Gateway.inTurn`). If calls and builds take no time, every
one of them is answered (`Gateway.inTurn_answers`): a mutation changes objects, calls and numbers of
the store, but not how long it takes. What it answers and leaves is known then
(`Gateway.mutate_atOnce`).
-/
namespace ClusterGraph

inductive Mutation where
  | create (raw : String) (patches : List Patch)
  | update (reference : Reference) (raw : String) (patches : List Patch)
  | delete (reference : Reference)

namespace Gateway
variable {β : Type}

/-- The operation of the gateway that carries out a mutation. -/
def carryOut (g : Gateway β) (caller : Request) : Mutation → Operation β Resource
  | .create raw patches => g.create caller raw patches
  | .update reference raw patches => g.update caller reference raw patches
  | .delete reference => g.delete caller reference

/-- Mutations one after another: what each of them answers, and the session that the last one
leaves. A mutation that fails has an answer as well, and the next one goes on from the session that
it leaves. There are no answers if the session halts. -/
def inTurn (g : Gateway β) (caller : Request) :
    List Mutation → World β → Option (List (Except Failure Resource)) × World β
  | [], w => (some [], w)
  | m :: rest, w =>
    match (g.carryOut caller m).run w with
    | (none, v) => (none, v)
    | (some answer, v) =>
      match g.inTurn caller rest v with
      | (answers?, u) => (answers?.map (answer :: ·), u)

/-- If all mutations are answered, the first one is, and the others are in the session that it
leaves. -/
theorem answered_of_inTurn {g : Gateway β} {caller : Request} {m : Mutation}
    {rest : List Mutation} {w v : World β} {answers : List (Except Failure Resource)}
    (answered : g.inTurn caller (m :: rest) w = (some answers, v)) :
    ∃ answer u later, (g.carryOut caller m).run w = (some answer, u) ∧
      g.inTurn caller rest u = (some later, v) ∧ answers = answer :: later := by
  unfold inTurn at answered
  split at answered
  · cases answered
  · next answer u first =>
    rcases others : g.inTurn caller rest u with ⟨_ | later, last⟩
    · rw [others] at answered
      cases answered
    · rw [others] at answered
      cases answered
      exact ⟨answer, u, later, first, others, rfl⟩

/-- More mutations go on from the session that the first ones leave. -/
theorem inTurn_append {g : Gateway β} {caller : Request} {before later : List Mutation}
    {w v u : World β} {answers more : List (Except Failure Resource)}
    (first : g.inTurn caller before w = (some answers, v))
    (second : g.inTurn caller later v = (some more, u)) :
    g.inTurn caller (before ++ later) w = (some (answers ++ more), u) := by
  induction before generalizing w answers with
  | nil =>
    cases first
    exact second
  | cons m rest ih =>
    obtain ⟨answer, x, others, here, after, rfl⟩ := answered_of_inTurn first
    simp only [List.cons_append, inTurn, here, ih after]
    rfl

end Gateway

/-! ## Without delay -/

namespace Store
variable {α : Type}

/-- What a command answers depends on the objects and on the calls counted, and nothing else of a
store changes. -/
structure Plain (f : Store → Except BackendError α × Store) : Prop where
  frame : ∀ s, (f s).2 = { s with objects := (f s).2.objects, sequence := (f s).2.sequence }
  blind : ∀ (s : Store) calls builds, f { s with calls := calls, builds := builds } =
    ((f s).1, { (f s).2 with calls := calls, builds := builds })

variable (restriction : Option String)

theorem plain_create (d : Document) : Plain fun s => s.create restriction d := by
  constructor
  · intro s
    unfold create
    split
    · rfl
    · dsimp only
      split <;> rfl
  · intro s calls builds
    unfold create
    split
    · rfl
    · dsimp only
      split <;> rfl

theorem plain_update (r : Reference) (d : Document) : Plain fun s => s.update restriction r d := by
  constructor
  · intro s
    unfold update
    split
    · rfl
    · dsimp only
      split <;> rfl
  · intro s calls builds
    unfold update
    split
    · rfl
    · dsimp only
      split <;> rfl

theorem plain_delete (r : Reference) : Plain fun s => s.delete restriction r := by
  constructor
  · intro s
    unfold delete
    split
    · rfl
    · dsimp only
      split <;> rfl
  · intro s calls builds
    unfold delete
    split
    · rfl
    · dsimp only
      split <;> rfl

/-- What a command answers and leaves, unless calls of its kind fail. -/
def commanded (call : RecordedCall) (f : Store → Except BackendError α × Store) (s : Store) :
    Except BackendError α × Store :=
  match s.failure? call.kind with
  | some e => (.error e, s)
  | none => f s

/-- A command of which all calls may fail is as plain as it is. -/
theorem Plain.commanded {f : Store → Except BackendError α × Store} (plain : Plain f)
    (call : RecordedCall) : Plain (commanded call f) := by
  constructor
  · intro s
    unfold Store.commanded
    split
    · rfl
    · exact plain.frame s
  · intro s calls builds
    have same : failure? { s with calls := calls, builds := builds } call.kind =
        s.failure? call.kind := rfl
    unfold Store.commanded
    rw [same]
    cases s.failure? call.kind with
    | some e => rfl
    | none => exact plain.blind s calls builds

end Store

namespace World
variable {callTimeout : Nat} {r : Request} {w v : World Store} {α : Type}

/-- Calls and builds take no time, and nobody is in the current slot of a caller. -/
structure ReadyFor (callTimeout : Nat) (r : Request) (w : World Store) : Prop where
  swift : w.Swift callTimeout
  idle : w.cache.Idle r.key w.now

theorem Prompt.readyFor (prompt : w.Prompt callTimeout) (r : Request) :
    w.ReadyFor callTimeout r := ⟨prompt.swift, prompt.idle r.key⟩

theorem SameFor.readyFor (same : SameFor r w v) (swift : w.Swift callTimeout) :
    v.ReadyFor callTimeout r := ⟨same.swift swift, same.idle⟩

variable {f : Store → Except BackendError α × Store}

/-- The session in which a command has been carried out. -/
def after (f : Store → Except BackendError α × Store) (w : World Store) : World Store :=
  w.mapBackend fun s => (f s).2

theorem Swift.after (swift : w.Swift callTimeout) (plain : Store.Plain f) :
    (w.after f).Swift callTimeout where
  delay := by
    change (f w.backend).2.delay = 0
    rw [plain.frame]
    exact swift.delay
  buildDelay := by
    change (f w.backend).2.buildDelay = 0
    rw [plain.frame]
    exact swift.buildDelay
  client_end := swift.client_end
  call_end := swift.call_end

theorem refusal?_after (plain : Store.Plain f) (r : Request) (w : World Store) :
    (w.after f).refusal? r = w.refusal? r := by
  have refuses : (f w.backend).2.refuseBuilds = w.backend.refuseBuilds := by rw [plain.frame]
  simp only [refusal?, World.after, World.mapBackend, refuses]

/-- A command keeps sessions the same for a caller. -/
theorem SameFor.after (same : SameFor r w v) (plain : Store.Plain f) :
    SameFor r (w.after f) (v.after f) where
  now := same.now
  wall := same.wall
  ttl := same.ttl
  backend := by
    have blind := plain.blind w.backend v.backend.calls v.backend.builds
    rw [← same.backend] at blind
    simp only [World.after, World.mapBackend, blind]
  idle := same.idle
  refusal := by
    rw [refusal?_after plain, refusal?_after plain]
    exact same.refusal

/-- A command answers the same in sessions that are the same for a caller. -/
theorem SameFor.answer_eq (same : SameFor r w v) (plain : Store.Plain f) :
    (f v.backend).1 = (f w.backend).1 := by
  have blind := plain.blind w.backend v.backend.calls v.backend.builds
  rw [← same.backend] at blind
  rw [blind]

end World

namespace Gateway
variable {callTimeout requestTimeout : Nat} {r : Request} {w v : World Store} {α γ : Type}

/-- A command is over at once, whether calls of its kind fail or not. -/
theorem command_atOnce (same : World.SameFor r w v) (swift : w.Swift callTimeout)
    (call : RecordedCall) {f : Store → Except BackendError α × Store} (plain : Store.Plain f) :
    Work.AtOnce (fun answer u => World.SameFor r (w.after (Store.commanded call f)) u ∧
        answer = (Store.commanded call f w.backend).1)
      (Store.enter call (Store.command f)) v := by
  have recorded := same.mapBackend (fun s => { s with calls := s.calls ++ [call] }) rfl
  have whole := plain.commanded call
  have answered : (Store.commanded call f (v.backend.record call)).1 =
      (Store.commanded call f w.backend).1 := recorded.answer_eq whole
  have left : World.SameFor r (w.after (Store.commanded call f))
      { v with backend := (Store.commanded call f (v.backend.record call)).2 } :=
    recorded.after whole
  refine .act ?_
  rw [(same.swift swift).delay]
  refine (Work.AtOnce.sleep _).bind ?_
  rintro _ u rfl
  -- Whether calls fail has been looked up before the call was recorded, which makes no difference.
  cases failure : v.backend.failure? call.kind with
  | some e =>
    have refused : Store.commanded call f (v.backend.record call) =
        (.error e, v.backend.record call) := by
      simp only [Store.commanded, show (v.backend.record call).failure? call.kind = _ from failure]
    rw [refused] at answered left
    exact .done ⟨left, answered⟩
  | none =>
    have carried : Store.commanded call f (v.backend.record call) = f (v.backend.record call) := by
      simp only [Store.commanded, show (v.backend.record call).failure? call.kind = _ from failure]
    rw [carried] at answered left
    exact .act (.done ⟨left, answered⟩)

/-- A mutation is over at once. What it answers and leaves is settled by any session that is the
same for the caller. -/
theorem mutate_atOnce (same : World.SameFor r w v) (swift : w.Swift callTimeout)
    (uncancelled : cancelled r.cancelAt w = false) (s : Stage) (operation : String)
    (call : RecordedCall) {f : Option String → Store → Except BackendError α × Store}
    (plain : ∀ restriction, Store.Plain (f restriction)) (remodel : α → Except Failure γ) :
    let carried := Store.commanded call (f r.scope.normalized.nspace)
    Work.AtOnce (fun answer u =>
        match w.refusal? r with
        | some e => World.SameFor r w u ∧ answer = .error (.of .clientAcquisition (.backend e))
        | none => World.SameFor r (w.after carried) u ∧
            answer = staged s remodel (carried w.backend).1)
      ((ofStore callTimeout requestTimeout).mutate r s operation call f remodel) v :=
  serve_atOnce same swift uncancelled s operation
    (fun restriction => Store.enter call (Store.command (f restriction)))
    (fun _ same => command_atOnce same swift call (plain _)) remodel

/-- A mutation leaves the session ready for the next one. -/
theorem mutate_ready (ready : w.ReadyFor callTimeout r)
    (uncancelled : cancelled r.cancelAt w = false) (s : Stage) (operation : String)
    (call : RecordedCall) {f : Option String → Store → Except BackendError α × Store}
    (plain : ∀ restriction, Store.Plain (f restriction)) (remodel : α → Except Failure γ) :
    Work.AtOnce (fun _ u => u.ReadyFor callTimeout r)
      ((ofStore callTimeout requestTimeout).mutate r s operation call f remodel) w := by
  refine (mutate_atOnce (.refl ready.idle) ready.swift uncancelled s operation call plain
    remodel).mono ?_
  intro answer u ended
  split at ended
  · exact ended.1.readyFor ready.swift
  · exact ended.1.readyFor (ready.swift.after ((plain _).commanded call))

/-- A mutation is over at once, and leaves the session ready for the next one. -/
theorem carryOut_atOnce (requestTimeout : Nat) (ready : w.ReadyFor callTimeout r)
    (uncancelled : r.cancelAt = none) (m : Mutation) :
    Work.AtOnce (fun _ u => u.ReadyFor callTimeout r)
      ((ofStore callTimeout requestTimeout).carryOut r m) w := by
  have uncancelled := World.cancelled_of_eq_none uncancelled w
  cases m with
  | create raw patches =>
    change Work.AtOnce _ ((ofStore callTimeout requestTimeout).create r raw patches) w
    rw [create_eq]
    cases Document.prepare raw patches with
    | error f => exact .done ready
    | ok d =>
      exact mutate_ready ready uncancelled _ _ _
        (fun restriction => Store.plain_create restriction d) _
  | update reference raw patches =>
    change Work.AtOnce _ ((ofStore callTimeout requestTimeout).update r reference raw patches) w
    rw [update_eq]
    cases Document.prepare raw patches with
    | error f => exact .done ready
    | ok d =>
      exact mutate_ready ready uncancelled _ _ _
        (fun restriction => Store.plain_update restriction reference d) _
  | delete reference =>
    obtain ⟨snapshot, remodelled, -⟩ := Resource.ofDocument_ofReference reference
    change Work.AtOnce _ ((ofStore callTimeout requestTimeout).delete r reference) w
    rw [delete_eq callTimeout requestTimeout r reference snapshot remodelled]
    exact mutate_ready ready uncancelled _ _ _
      (fun restriction => Store.plain_delete restriction reference) _

/-- Every mutation is answered. -/
theorem inTurn_answers (requestTimeout : Nat) (ready : w.ReadyFor callTimeout r)
    (uncancelled : r.cancelAt = none) (mutations : List Mutation) :
    ∃ answers v, (ofStore callTimeout requestTimeout).inTurn r mutations w = (some answers, v) ∧
      answers.length = mutations.length := by
  induction mutations generalizing w with
  | nil => exact ⟨[], w, rfl, rfl⟩
  | cons m rest ih =>
    obtain ⟨answer, v, first, still⟩ := (carryOut_atOnce requestTimeout ready uncancelled m).run
    obtain ⟨answers, u, later, length⟩ := ih still
    refine ⟨answer :: answers, u, ?_, by simp [length]⟩
    unfold inTurn
    rw [first]
    dsimp only
    rw [later]
    rfl

end Gateway
end ClusterGraph
