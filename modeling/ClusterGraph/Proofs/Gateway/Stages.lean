import ClusterGraph.Proofs.Gateway.Mutation
import ClusterGraph.Proofs.Store.Objects

/-!
# What a mutation has done when it fails

The stage at which a mutation fails tells what it has done by then. A document that cannot be
prepared is refused before anything happens. Without a client there is no call. Otherwise the
mutation makes its own call and no other, and it has made it if it succeeds
(`Gateway.mutations_are_disciplined`).

This holds of every way that a mutation can go: it may run alone or among others, under any limits,
and it may be cut off wherever it waits. What it records is what its own changes add to the calls
of the store.
-/
namespace ClusterGraph

def World.recorded (w v : World Store) : List RecordedCall :=
  v.backend.calls.drop w.backend.calls.length

/-- No recorded call is lost. -/
def World.KeepsCalls (w v : World Store) : Prop :=
  v.backend.calls = w.backend.calls ++ w.recorded v

namespace World
variable {w v : World Store}

theorem recorded_of_calls (same : v.backend.calls = w.backend.calls) : w.recorded v = [] := by
  unfold recorded
  rw [same, List.drop_length]

theorem keepsCalls_of_calls (same : v.backend.calls = w.backend.calls) : w.KeepsCalls v := by
  unfold KeepsCalls
  rw [recorded_of_calls same, same, List.append_nil]

theorem recorded_of_append (calls : List RecordedCall)
    (made : v.backend.calls = w.backend.calls ++ calls) : w.recorded v = calls := by
  unfold recorded
  rw [made, List.drop_left]

theorem OnlyBuilds.calls (only : w.OnlyBuilds v) : v.backend.calls = w.backend.calls := by
  rw [show v.backend = _ from only]

end World

/-- At most one call is recorded, which is a given one, and it is recorded if there is a value. -/
def Store.MakesAtMost {ε α : Type} (call : RecordedCall) (calls : List RecordedCall)
    (answer : Option (Except ε α)) : Prop :=
  (calls = [] ∨ calls = [call]) ∧ ∀ a, answer = some (.ok a) → calls = [call]

section Calls
open World (recorded KeepsCalls)
variable {α γ : Type} {call : RecordedCall} {f : Store → Except BackendError α × Store}
  {calls : List RecordedCall}

namespace Store

/-- Once a command is recorded, it records nothing more. -/
theorem changes_recorded (keeps : ∀ s, (f s).2.calls = s.calls) (delay : Nat)
    (failure : Option BackendError) :
    Work.Changes (fun u v : World Store => v.backend.calls = u.backend.calls)
      ((Work.sleep (σ := World Store) delay).bind fun _ =>
        match failure with
        | some e => .done (.error e)
        | none => command f) := by
  have slept : Work.Changes (fun u v : World Store => v.backend.calls = u.backend.calls)
      (Work.sleep delay) := by
    refine .sleep ?_ delay
    intro _
    rfl
  refine slept.bind ?_
  intro _
  cases failure with
  | some e => exact .done _
  | none => exact .act (fun v => keeps v.backend) fun _ => .done _

theorem changes_enter (call : RecordedCall) (keeps : ∀ s, (f s).2.calls = s.calls) :
    Work.Changes KeepsCalls (enter call (command f)) := by
  refine .act ?_ ?_
  · intro w
    unfold KeepsCalls
    rw [World.recorded_of_append [call] rfl]
    rfl
  · intro w
    exact (changes_recorded keeps _ _).imp fun _ _ same => World.keepsCalls_of_calls same

theorem makesAtMost_enter (keeps : ∀ s, (f s).2.calls = s.calls)
    {answer : Option (Except BackendError α)}
    (among : Work.Among recorded (enter call (command f)) calls answer) :
    MakesAtMost call calls answer := by
  cases among with
  | cut => exact ⟨.inl rfl, nofun⟩
  | act w rest =>
    have nothing_more := (changes_recorded keeps _ _).log_eq_nil
      (fun _ _ same => World.recorded_of_calls same) rest
    rw [World.recorded_of_append [call] rfl, nothing_more, List.append_nil]
    exact ⟨.inr rfl, fun _ _ => rfl⟩

theorem makesAtMost_bounded (r : Request) (limit : Nat) (operation : String)
    (keeps : ∀ s, (f s).2.calls = s.calls) {answer : Option (Except BackendError α)}
    (among : Work.Among recorded (r.bounded limit operation (enter call (command f))) calls
      answer) :
    MakesAtMost call calls answer := by
  rcases r.of_among_bounded (fun _ => World.recorded_of_calls rfl)
    (fun _ => World.recorded_of_calls rfl) limit operation among with whole | ⟨stopped, failed⟩
  · exact makesAtMost_enter keeps whole
  · have made := makesAtMost_enter keeps stopped
    exact ⟨made.1, fun a value => absurd value (failed a)⟩

end Store

namespace Gateway

/-- What a stage does is what its call does, and it fails as the stage that it is. -/
theorem of_among_stage (s : Stage) {call : Call Store α} {answer : Option (Except Failure α)}
    (among : Work.Among recorded (stage s call) calls answer) :
    (∃ a, answer = some (.ok a) ∧ Work.Among recorded call calls (some (.ok a))) ∨
      ((∀ f, answer = some (.error f) → f.stage = s) ∧ (∀ a, answer ≠ some (.ok a)) ∧
        ∃ result, Work.Among recorded call calls result) := by
  rcases among.of_bind with ⟨result, first, rest, begun, ended, rfl⟩ | ⟨begun, rfl⟩
  · rcases result with e | a
    · cases ended with
      | done =>
        rw [List.append_nil]
        refine .inr ⟨?_, nofun, _, begun⟩
        rintro _ ⟨⟩
        rfl
      | cut =>
        rw [List.append_nil]
        exact .inr ⟨(fun _ same => nomatch same), nofun, _, begun⟩
    · cases ended with
      | done =>
        rw [List.append_nil]
        exact .inl ⟨a, rfl, begun⟩
      | cut =>
        rw [List.append_nil]
        exact .inr ⟨(fun _ same => nomatch same), nofun, _, begun⟩
  · exact .inr ⟨(fun _ same => nomatch same), nofun, _, begun⟩

/-- One stage after another: the first one ends the work, or the second goes on with its value. -/
theorem of_among_next (first : Operation Store α) (k : α → Operation Store γ)
    {answer : Option (Except Failure γ)} (among : Work.Among recorded (next first k) calls answer) :
    (∃ a early late, Work.Among recorded first early (some (.ok a)) ∧
      Work.Among recorded (k a) late answer ∧ calls = early ++ late) ∨
    ∃ result, Work.Among recorded first calls result ∧ (∀ a, answer ≠ some (.ok a)) ∧
      ∀ f, answer = some (.error f) → result = some (.error f) := by
  rcases among.of_bind with ⟨result, early, late, begun, ended, rfl⟩ | ⟨begun, rfl⟩
  · rcases result with f | a
    · refine .inr ⟨some (.error f), ?_⟩
      cases ended with
      | done =>
        rw [List.append_nil]
        exact ⟨begun, nofun, fun _ same => by cases same; rfl⟩
      | cut =>
        rw [List.append_nil]
        exact ⟨begun, nofun, fun _ same => nomatch same⟩
    · exact .inl ⟨a, early, late, begun, ended, rfl⟩
  · exact .inr ⟨none, begun, nofun, fun _ same => nomatch same⟩

/-- What a mutation records by itself, and where it fails. -/
theorem of_among_mutate (callTimeout requestTimeout : Nat) (r : Request) (s : Stage)
    (operation : String) {f : Option String → Store → Except BackendError α × Store}
    (keeps : ∀ restriction store, (f restriction store).2.calls = store.calls)
    (remodel : α → Except Failure γ) {answer : Option (Except Failure γ)}
    (among : Work.Among recorded
      ((ofStore callTimeout requestTimeout).mutate r s operation call f remodel) calls answer) :
    Store.MakesAtMost call calls answer ∧ ∀ e, answer = some (.error e) →
      (e.stage = .clientAcquisition ∧ calls = []) ∨ e.stage = s ∨ ∃ a, remodel a = .error e := by
  have silent {calls : List RecordedCall} {result : Option (Except Failure Client)}
      (among : Work.Among recorded ((ofStore callTimeout requestTimeout).client r) calls result) :
      calls = [] :=
    (changes_client callTimeout requestTimeout r).log_eq_nil
      (fun _ _ only => World.recorded_of_calls only.calls) among
  rcases of_among_next _ _ among with ⟨c, early, late, begun, ended, rfl⟩ |
    ⟨result, begun, failed, source⟩
  · rw [silent begun, List.nil_append]
    rcases of_among_next _ _ ended with ⟨a, early, late, called, answered, rfl⟩ |
      ⟨result, called, failed, source⟩
    · rcases of_among_stage s called with ⟨_, -, bounded⟩ | ⟨-, failed, -⟩
      · have made := Store.makesAtMost_bounded r _ operation (keeps c.scope.nspace) bounded
        have whole := made.2 _ rfl
        cases answered with
        | done =>
          rw [List.append_nil]
          refine ⟨⟨made.1, fun _ _ => whole⟩, ?_⟩
          intro e failed
          exact .inr (.inr ⟨a, Option.some.inj failed⟩)
        | cut =>
          rw [List.append_nil]
          exact ⟨⟨made.1, nofun⟩, fun _ same => nomatch same⟩
      · exact absurd rfl (failed a)
    · rcases of_among_stage s called with ⟨a, rfl, bounded⟩ | ⟨stage, -, _, bounded⟩
      · have made := Store.makesAtMost_bounded r _ operation (keeps c.scope.nspace) bounded
        exact ⟨⟨made.1, fun a value => absurd value (failed a)⟩,
          fun e value => nomatch source e value⟩
      · have made := Store.makesAtMost_bounded r _ operation (keeps c.scope.nspace) bounded
        exact ⟨⟨made.1, fun a value => absurd value (failed a)⟩,
          fun e value => .inr (.inl (stage e (source e value)))⟩
  · have nothing := silent begun
    refine ⟨⟨.inl nothing, fun a value => absurd value (failed a)⟩, ?_⟩
    intro e value
    rcases of_among_stage .clientAcquisition begun with ⟨a, rfl, -⟩ | ⟨stage, -, -⟩
    · nomatch source e value
    · exact .inl ⟨stage e (source e value), nothing⟩

/-- A mutation never loses a recorded call. -/
theorem changes_mutate (callTimeout requestTimeout : Nat) (r : Request) (s : Stage)
    (operation : String) {f : Option String → Store → Except BackendError α × Store}
    (keeps : ∀ restriction store, (f restriction store).2.calls = store.calls)
    (remodel : α → Except Failure γ) :
    Work.Changes KeepsCalls
      ((ofStore callTimeout requestTimeout).mutate r s operation call f remodel) := by
  have acquires := (changes_client callTimeout requestTimeout r).imp
    fun _ _ only => World.keepsCalls_of_calls only.calls
  refine acquires.bind ?_
  rintro (e | c)
  · exact .done _
  · have commands := r.changes_bounded (fun _ => World.keepsCalls_of_calls rfl)
      (fun _ => World.keepsCalls_of_calls rfl) callTimeout operation
      (Store.changes_enter call (keeps c.scope.nspace))
    refine (changes_stage commands).bind ?_
    rintro (e | a) <;> exact .done _

end Gateway
end Calls

/-! ## Whole mutations -/

namespace Gateway
open World (recorded)

/-- What may be said of a mutation by the stage at which it fails. `prepared` is the document that
it prepares, and `own` the call that it makes with it. -/
structure Disciplined (prepared : Except Failure Document) (own : Document → RecordedCall)
    (work : Operation Store Resource) : Prop where
  /-- A document that cannot be prepared is refused before anything happens. -/
  refused : ∀ f, prepared = .error f →
    (f.stage = .unmarshal ∨ f.stage = .patchPath) ∧ work = .done (.error f)
  /-- Otherwise the mutation makes its own call at most, none without a client, and one if it
  succeeds. -/
  made : ∀ d, prepared = .ok d → ∀ calls answer, Work.Among recorded work calls answer →
    (calls = [] ∨ calls = [own d]) ∧ (∀ resource, answer = some (.ok resource) → calls = [own d]) ∧
    ∀ f, answer = some (.error f) → f.stage ≠ .unmarshal ∧ f.stage ≠ .patchPath ∧
      (f.stage = .clientAcquisition → calls = [])
  /-- When it runs alone, what it records is all that comes to the calls of the store. -/
  alone : ∀ w, ∃ calls, Work.Among recorded work calls (work.run w).1 ∧
    (work.run w).2.backend.calls = w.backend.calls ++ calls

variable {α : Type} (callTimeout requestTimeout : Nat) (r : Request)

theorem disciplined_refusal (f : Failure) (own : Document → RecordedCall)
    (stage : f.stage = .unmarshal ∨ f.stage = .patchPath) :
    Disciplined (.error f) own (.done (.error f)) := by
  refine ⟨?_, (fun _ same => nomatch same), ?_⟩
  · rintro _ ⟨⟩
    exact ⟨stage, rfl⟩
  · intro w
    exact ⟨[], .done _, (List.append_nil _).symm⟩

theorem disciplined_mutate (d : Document) (s : Stage) (operation : String)
    (own : Document → RecordedCall) {f : Option String → Store → Except BackendError α × Store}
    (keeps : ∀ restriction store, (f restriction store).2.calls = store.calls)
    (remodel : α → Except Failure Resource)
    (late : s ≠ .unmarshal ∧ s ≠ .patchPath ∧ s ≠ .clientAcquisition)
    (remodels : ∀ a e, remodel a = .error e → e.stage = .remodel) :
    Disciplined (.ok d) own
      ((ofStore callTimeout requestTimeout).mutate r s operation (own d) f remodel) := by
  refine ⟨(fun _ same => nomatch same), ?_, ?_⟩
  · rintro _ ⟨⟩ calls answer among
    obtain ⟨made, fails⟩ := of_among_mutate callTimeout requestTimeout r s operation keeps remodel
      among
    refine ⟨made.1, made.2, ?_⟩
    intro e failed
    rcases fails e failed with ⟨stage, nothing⟩ | stage | ⟨a, failed⟩
    · simp [stage, nothing]
    · rw [stage]
      exact ⟨late.1, late.2.1, fun early => absurd early late.2.2⟩
    · simp [remodels a e failed]
  · intro w
    exact (changes_mutate callTimeout requestTimeout r s operation keeps remodel).run_among
      (fun _ _ => rfl) w

/-- What has happened by the time at which a creation, an update or a deletion fails. -/
theorem mutations_are_disciplined :
    (∀ raw patches, Disciplined (Document.prepare raw patches) .create
      ((ofStore callTimeout requestTimeout).create r raw patches)) ∧
    (∀ reference raw patches, Disciplined (Document.prepare raw patches) (.update reference)
      ((ofStore callTimeout requestTimeout).update r reference raw patches)) ∧
    ∀ reference, Disciplined (.ok (Document.ofReference reference)) (fun _ => .delete reference)
      ((ofStore callTimeout requestTimeout).delete r reference) := by
  have remodels (d : Document) (f : Failure) (failed : Resource.ofDocument d = .error f) :
      f.stage = .remodel := (Resource.name?_eq_none_of_ofDocument d f failed).1
  refine ⟨?_, ?_, ?_⟩
  · intro raw patches
    rw [create_eq]
    cases prepared : Document.prepare raw patches with
    | error f => exact disciplined_refusal f _ (Document.stage_of_prepare raw patches f prepared)
    | ok d =>
      exact disciplined_mutate callTimeout requestTimeout r d .create "create" .create
        (fun restriction s => s.calls_create restriction d) _ (by decide) remodels
  · intro reference raw patches
    rw [update_eq]
    cases prepared : Document.prepare raw patches with
    | error f => exact disciplined_refusal f _ (Document.stage_of_prepare raw patches f prepared)
    | ok d =>
      exact disciplined_mutate callTimeout requestTimeout r d .update "update" (.update reference)
        (fun restriction s => s.calls_update restriction reference d) _ (by decide) remodels
  · intro reference
    obtain ⟨snapshot, remodelled, -⟩ := Resource.ofDocument_ofReference reference
    rw [delete_eq callTimeout requestTimeout r reference snapshot remodelled]
    exact disciplined_mutate callTimeout requestTimeout r (Document.ofReference reference) .delete
      "delete" (fun _ => .delete reference)
      (fun restriction s => s.calls_delete restriction reference) _ (by decide)
      fun _ _ same => nomatch same

end Gateway
end ClusterGraph
