import ClusterGraph.Gateway.Basic
import ClusterGraph.Proofs.Access.Acquisition
import ClusterGraph.Store.Backend

/-!
# Mutations of a store

A mutation that has its document prepared gets the client of the caller, makes one bounded call and
gives back what the command answers. This says once what can become of it when it runs alone,
whatever the delays, the limits and the failures of the store are: it fails before its call, after
its call is recorded, or by its command, or the command is carried out and its answer is given back
(`Gateway.mutated_run`).
-/
namespace ClusterGraph

def Gateway.ofStore (callTimeout requestTimeout : Nat) : Gateway Store :=
  ⟨Store.backend, callTimeout, requestTimeout⟩

/-- Nothing of the store changes but the number of builds. -/
def World.OnlyBuilds (w v : World Store) : Prop :=
  v.backend = { w.backend with builds := v.backend.builds }

namespace World

theorem onlyBuilds_refl (w : World Store) : w.OnlyBuilds w := rfl

theorem onlyBuilds_of_backend (w v : World Store) (same : v.backend = w.backend) :
    w.OnlyBuilds v := by
  unfold OnlyBuilds
  rw [same]

theorem onlyBuilds_trans (u v w : World Store) (first : u.OnlyBuilds v) (second : v.OnlyBuilds w) :
    u.OnlyBuilds w := by
  unfold OnlyBuilds at *
  rw [second, first]

end World

section Acquisition
open World (OnlyBuilds)

theorem changes_buildClient (identity : Identity) (scope : Scope) :
    Work.Changes OnlyBuilds (Store.buildClient identity scope) := by
  refine .act (fun w => rfl) ?_
  intro w
  refine (Work.Changes.sleep World.onlyBuilds_refl _).bind ?_
  intro _
  refine .look World.onlyBuilds_refl ?_
  intro w
  split
  · exact .done _
  · exact .done _

/-- Getting a client changes nothing of the store but the number of builds. -/
theorem onlyBuilds_acquire (identity : Identity) (scope : Scope) :
    Work.Changes OnlyBuilds (acquire Store.backend identity scope) :=
  changes_acquire ⟨fun w v _ same => World.onlyBuilds_of_backend w v same, World.onlyBuilds_trans⟩
    changes_buildClient identity scope

end Acquisition

/-! ## Bounded calls -/

namespace Request
variable {β α : Type}

theorem changes_bounded {change : World β → World β → Prop} (refl : ∀ w, change w w)
    (halts : ∀ w, change w { w with halted := true }) (r : Request) (limit : Nat)
    (operation : String) {call : Call β α} (changes : Work.Changes change call) :
    Work.Changes change (r.bounded limit operation call) := by
  refine .look refl ?_
  intro w
  dsimp only
  split
  · exact .act halts fun _ => .wait refl (.done _)
  · exact changes.bounded refl r.cancelAt _ _ _

/-- A run of a bounded call, unless the time at which it is due does not exist. -/
theorem run_bounded (r : Request) (limit : Nat) (operation : String) (call : Call β α)
    (w : World β) :
    (r.bounded limit operation call).run w = (none, { w with halted := true }) ∨
      ∃ deadline, (r.bounded limit operation call).run w =
        (call.bounded r.cancelAt deadline
          (.error (.timeout (operation ++ ": request cancelled")))
          (.error (.timeout (operation ++ ": deadline exceeded")))).run w := by
  simp only [bounded, Work.look, Work.run, id]
  split
  · refine .inl ?_
    simp [World.halt, Work.stuck, Work.run, Work.upcoming]
  · exact .inr ⟨_, rfl⟩

/-- A bounded call adds to a log what the call itself would, perhaps up to where it is abandoned,
and fails then. -/
theorem of_among_bounded {ε : Type} {adds : World β → World β → List ε} (refl : ∀ w, adds w w = [])
    (halts : ∀ w, adds w { w with halted := true } = []) (r : Request) (limit : Nat)
    (operation : String) {call : Call β α} {log : List ε} {answer : Option (Except BackendError α)}
    (among : Work.Among adds (r.bounded limit operation call) log answer) :
    Work.Among adds call log answer ∨
      (Work.Among adds call log none ∧ ∀ a, answer ≠ some (.ok a)) := by
  rcases among.of_look refl with ⟨w, rest⟩ | ⟨rfl, rfl⟩
  · dsimp only at rest
    split at rest
    · have silent : Work.Changes (fun u v => adds u v = [])
          (World.halt (.error (.timeout (operation ++ ": deadline exceeded"))) : Call β α) :=
        .act halts fun _ => .wait refl (.done _)
      have nothing := silent.log_eq_nil (fun _ _ same => same) rest
      rw [nothing]
      refine .inr ⟨.cut _, ?_⟩
      rintro a rfl
      cases rest with
      | act _ rest =>
        cases rest with
        | wait rest => cases rest
    · rcases rest.of_bounded refl with same | ⟨stopped, rfl | rfl⟩
      · exact .inl same
      · exact .inr ⟨stopped, nofun⟩
      · exact .inr ⟨stopped, nofun⟩
  · exact .inl (.cut _)

end Request

/-! ## Commands -/

namespace Store
variable {α : Type}

def record (s : Store) (call : RecordedCall) : Store := { s with calls := s.calls ++ [call] }

/-- What a bounded command answers, if anything, and the store that it leaves: it is not called, or
is called and not carried out, or is carried out as a whole. -/
inductive Commanded (call : RecordedCall) (f : Store → Except BackendError α × Store)
    (before : Store) : Option (Except BackendError α) → Store → Prop where
  | uncalled (answer : Option (Except BackendError α)) (failed : ∀ a, answer ≠ some (.ok a)) :
      Commanded call f before answer before
  | called (answer : Option (Except BackendError α)) (failed : ∀ a, answer ≠ some (.ok a)) :
      Commanded call f before answer (before.record call)
  | carriedOut : Commanded call f before (some (f (before.record call)).1)
      (f (before.record call)).2

/-- After its delay a command fails as calls of its kind do, or is carried out at once. -/
theorem leads_enter (call : RecordedCall) (f : Store → Except BackendError α × Store)
    (w : World Store) :
    Work.Leads (fun v : World Store => v.backend = w.backend.record call)
      (fun answer v => Commanded call f w.backend (some answer) v.backend)
      (enter call (command f)) w := by
  refine .act ?_
  have still : Work.Changes (fun u v : World Store => v.backend = u.backend)
      (Work.sleep w.backend.delay) := by
    refine .sleep ?_ _
    intro _
    rfl
  have slept : Work.Leads (fun v : World Store => v.backend = w.backend.record call)
      (fun _ v => v.backend = w.backend.record call) (Work.sleep w.backend.delay)
      (World.mapBackend (fun s => { s with calls := s.calls ++ [call] }) w) :=
    still.leads (fun _ _ same state => same.trans state) rfl
  refine slept.bind ?_
  intro _ v state
  cases w.backend.failure? call.kind with
  | some e =>
    refine .done ?_
    rw [state]
    exact .called _ nofun
  | none =>
    refine .act (.done ?_)
    simp only [World.mapBackend, state]
    exact .carriedOut

/-- A bounded command is carried out as a whole or not at all. -/
theorem commanded_bounded (r : Request) (limit : Nat) (operation : String) (call : RecordedCall)
    (f : Store → Except BackendError α × Store) (w : World Store) :
    Commanded call f w.backend ((r.bounded limit operation (enter call (command f))).run w).1
      ((r.bounded limit operation (enter call (command f))).run w).2.backend := by
  rcases r.run_bounded limit operation (enter call (command f)) w with halted | ⟨deadline, same⟩
  · rw [halted]
    exact .uncalled none nofun
  · rw [same]
    have leads : Work.Leads (fun v : World Store => v.backend = w.backend.record call)
        (fun answer v => Commanded call f w.backend (some answer) v.backend)
        ((enter call (command f)).bounded r.cancelAt deadline
          (.error (.timeout (operation ++ ": request cancelled")))
          (.error (.timeout (operation ++ ": deadline exceeded")))) w := by
      refine (leads_enter call f w).bounded r.cancelAt deadline (.uncalled _ nofun) ?_ ?_
      · intro v state
        rw [state]
        exact .called _ nofun
      · intro v state
        rw [state]
        exact .called _ nofun
    have ended := leads.run fun _ _ state => state
    generalize Work.run _ w = outcome at ended ⊢
    obtain ⟨answer, v⟩ := outcome
    cases answer with
    | some answer => exact ended
    | none =>
      have state : v.backend = w.backend.record call := ended
      rw [state]
      exact .called none nofun

end Store

/-! ## Answers as resources -/

namespace Resource

theorem ofDocument_of_name (d : Document) (name : String) (named : d.name? = some name) :
    ∃ resource, ofDocument d = .ok resource := by
  unfold ofDocument
  rw [named]
  exact ⟨_, rfl⟩

theorem name?_eq_none_of_ofDocument (d : Document) (f : Failure)
    (failed : ofDocument d = .error f) :
    f.stage = .remodel ∧ d.name? = none := by
  unfold ofDocument at failed
  split at failed
  · next unnamed =>
    cases failed
    exact ⟨rfl, unnamed⟩
  · cases failed

/-- The resource of a reference. -/
theorem ofDocument_ofReference (r : Reference) :
    ∃ resource, ofDocument (Document.ofReference r) = .ok resource ∧
      resource.apiVersion = r.apiVersion ∧ resource.kind = r.kind ∧ resource.nspace = r.nspace ∧
      resource.name = r.name := by
  have named : (Document.ofReference r).name? = some r.name := by
    simp [Document.name?, Document.metaText?, Document.metadata?, Document.ofReference,
      Entries.get?, Json.get?, Json.string?]
  have spaced : (Document.ofReference r).nspace? = r.nspace := by
    cases nspace : r.nspace <;>
      simp [Document.nspace?, Document.metaText?, Document.metadata?, Document.ofReference,
        Entries.get?, Json.get?, Json.string?, nspace]
  unfold ofDocument
  rw [named]
  refine ⟨_, rfl, ?_, ?_, spaced, rfl⟩
  · simp [Document.apiVersion, Document.get?, Document.ofReference, Entries.get?, Json.string?]
  · simp [Document.kind, Document.get?, Document.ofReference, Entries.get?, Json.string?]

end Resource

/-! ## Mutations -/

namespace Gateway
variable {α γ : Type}

/-- A command with the client of the caller, restricted as that client is, and its answer
remodelled. -/
def mutate (g : Gateway Store) (r : Request) (s : Stage) (operation : String) (call : RecordedCall)
    (f : Option String → Store → Except BackendError α × Store)
    (remodel : α → Except Failure γ) : Operation Store γ :=
  next (g.client r) fun c =>
    next (stage s (r.bounded g.callTimeout operation
      (Store.enter call (Store.command (f c.scope.nspace))))) fun a => .done (remodel a)

/-- A stage has failed, or has no answer. -/
def FailsAt (s : Stage) (answer : Option (Except Failure γ)) : Prop :=
  answer = none ∨ ∃ e, answer = some (.error (.of s (.backend e)))

/-- What a mutation answers, if anything, and the store that it leaves. -/
inductive Mutated (s : Stage) (call : RecordedCall)
    (f : Option String → Store → Except BackendError α × Store) (remodel : α → Except Failure γ)
    (before : Store) : Option (Except Failure γ) → Store → Prop where
  | noClient (builds : Nat) (answer : Option (Except Failure γ))
      (failed : FailsAt .clientAcquisition answer) :
      Mutated s call f remodel before answer { before with builds := builds }
  | uncalled (builds : Nat) (answer : Option (Except Failure γ)) (failed : FailsAt s answer) :
      Mutated s call f remodel before answer { before with builds := builds }
  | called (builds : Nat) (answer : Option (Except Failure γ)) (failed : FailsAt s answer) :
      Mutated s call f remodel before answer ({ before with builds := builds }.record call)
  | refused (builds : Nat) (restriction : Option String) (e : BackendError) (after : Store)
      (outcome : f restriction ({ before with builds := builds }.record call) = (.error e, after)) :
      Mutated s call f remodel before (some (.error (.of s (.backend e)))) after
  | carriedOut (builds : Nat) (restriction : Option String) (a : α) (after : Store)
      (outcome : f restriction ({ before with builds := builds }.record call) = (.ok a, after)) :
      Mutated s call f remodel before (some (remodel a)) after

theorem changes_stage {change : World Store → World Store → Prop} {s : Stage} {call : Call Store α}
    (changes : Work.Changes change call) : Work.Changes change (stage s call) := by
  refine changes.bind ?_
  intro result
  cases result with
  | ok a => exact .done _
  | error e => exact .done _

/-- Getting the client of a caller changes nothing of the store but the number of builds. -/
theorem changes_client (callTimeout requestTimeout : Nat) (r : Request) :
    Work.Changes World.OnlyBuilds ((ofStore callTimeout requestTimeout).client r) :=
  changes_stage (r.changes_bounded World.onlyBuilds_refl (fun _ => rfl) _ _
    (onlyBuilds_acquire r.identity r.scope))

/-- What a stage answers in a run. -/
theorem run_stage {β : Type} (s : Stage) (call : Call β α) (w : World β) :
    (stage s call).run w =
      ((call.run w).1.map fun
        | .ok a => .ok a
        | .error e => .error (.of s (.backend e)), (call.run w).2) := by
  unfold stage
  rw [Work.run_bind]
  rcases call.run w with ⟨_ | _ | _, v⟩ <;> rfl

/-- A run of one stage after another. -/
theorem run_next {β : Type} (first : Operation β α) (k : α → Operation β γ) (w : World β) :
    (next first k).run w =
      match first.run w with
      | (some (.ok a), v) => (k a).run v
      | (some (.error e), v) => (some (.error e), v)
      | (none, v) => (none, v) := by
  unfold next
  rw [Work.run_bind]
  rcases first.run w with ⟨_ | _ | _, v⟩ <;> rfl

/-- The second half of a mutation, once there is a client. -/
theorem mutated_command (r : Request) (limit : Nat) (s : Stage) (operation : String)
    (call : RecordedCall) (f : Option String → Store → Except BackendError α × Store)
    (remodel : α → Except Failure γ) (restriction : Option String) (before : Store) (builds : Nat)
    (w : World Store) (acquired : w.backend = { before with builds := builds }) :
    let outcome := (next (stage s (r.bounded limit operation
      (Store.enter call (Store.command (f restriction))))) fun a => .done (remodel a)).run w
    Mutated s call f remodel before outcome.1 outcome.2.backend := by
  have commanded := Store.commanded_bounded r limit operation call (f restriction) w
  rw [acquired] at commanded
  simp only [run_next, run_stage]
  generalize Work.run _ w = outcome at commanded ⊢
  obtain ⟨answer, v⟩ := outcome
  generalize same : v.backend = after at commanded
  cases commanded with
  | uncalled answer failed =>
    rcases answer with _ | e | a
    · simp only [Option.map_none, same]
      exact .uncalled builds none (.inl rfl)
    · simp only [Option.map_some, same]
      exact .uncalled builds _ (.inr ⟨e, rfl⟩)
    · exact absurd rfl (failed a)
  | called answer failed =>
    rcases answer with _ | e | a
    · simp only [Option.map_none, same]
      exact .called builds none (.inl rfl)
    · simp only [Option.map_some, same]
      exact .called builds _ (.inr ⟨e, rfl⟩)
    · exact absurd rfl (failed a)
  | carriedOut =>
    rcases outcome : f restriction ({ before with builds := builds }.record call) with
      ⟨e | a, after⟩
    · simp only [outcome] at same
      simp only [Option.map_some, outcome, same]
      exact .refused builds restriction e after outcome
    · simp only [outcome] at same
      simp only [Option.map_some, outcome, same, Work.run]
      exact .carriedOut builds restriction a after outcome

/-- What a mutation answers and leaves when it runs alone, whatever the limits and the delays are:
an error comes with a store in which at most the call is recorded, or is that of the command
itself. -/
theorem mutated_run (callTimeout requestTimeout : Nat) (r : Request) (s : Stage)
    (operation : String) (call : RecordedCall)
    (f : Option String → Store → Except BackendError α × Store) (remodel : α → Except Failure γ)
    (w : World Store) :
    let outcome := ((ofStore callTimeout requestTimeout).mutate r s operation call f remodel).run w
    Mutated s call f remodel w.backend outcome.1 outcome.2.backend := by
  have spared : w.OnlyBuilds (((ofStore callTimeout requestTimeout).client r).run w).2 :=
    (changes_client callTimeout requestTimeout r).run
      (fun u v made kept => World.onlyBuilds_trans w u v kept made) (fun _ _ kept => kept)
      (World.onlyBuilds_refl w)
  have answered :
      FailsAt .clientAcquisition (((ofStore callTimeout requestTimeout).client r).run w).1 ∨
        ∃ c, (((ofStore callTimeout requestTimeout).client r).run w).1 = some (.ok c) := by
    unfold client
    rw [run_stage]
    rcases Work.run _ w with ⟨_ | e | c, v⟩
    · exact .inl (.inl rfl)
    · exact .inl (.inr ⟨e, rfl⟩)
    · exact .inr ⟨c, rfl⟩
  unfold mutate
  rw [run_next]
  generalize ((ofStore callTimeout requestTimeout).client r).run w = acquired at *
  obtain ⟨answer, v⟩ := acquired
  have state : v.backend = { w.backend with builds := v.backend.builds } := spared
  rcases answered with (rfl | ⟨e, rfl⟩) | ⟨c, rfl⟩
  · dsimp only
    rw [state]
    exact .noClient v.backend.builds none (.inl rfl)
  · dsimp only
    rw [state]
    exact .noClient v.backend.builds _ (.inr ⟨e, rfl⟩)
  · exact mutated_command r callTimeout s operation call f remodel c.scope.nspace w.backend
      v.backend.builds v state

section Mutations
variable (callTimeout requestTimeout : Nat) (r : Request)

theorem create_eq (raw : String) (patches : List Patch) :
    (ofStore callTimeout requestTimeout).create r raw patches =
      match Document.prepare raw patches with
      | .error f => .done (.error f)
      | .ok d =>
        (ofStore callTimeout requestTimeout).mutate r .create "create" (.create d)
          (fun restriction s => s.create restriction d) Resource.ofDocument := rfl

theorem update_eq (reference : Reference) (raw : String) (patches : List Patch) :
    (ofStore callTimeout requestTimeout).update r reference raw patches =
      match Document.prepare raw patches with
      | .error f => .done (.error f)
      | .ok d =>
        (ofStore callTimeout requestTimeout).mutate r .update "update" (.update reference d)
          (fun restriction s => s.update restriction reference d) Resource.ofDocument := rfl

theorem delete_eq (reference : Reference) (snapshot : Resource)
    (remodelled : Resource.ofDocument (Document.ofReference reference) = .ok snapshot) :
    (ofStore callTimeout requestTimeout).delete r reference =
      (ofStore callTimeout requestTimeout).mutate r .delete "delete" (.delete reference)
        (fun restriction s => s.delete restriction reference) fun _ => .ok snapshot := by
  unfold delete
  rw [remodelled]
  rfl

end Mutations
end Gateway
end ClusterGraph
