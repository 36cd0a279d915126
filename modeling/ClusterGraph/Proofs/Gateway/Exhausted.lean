import ClusterGraph.Proofs.Gateway.Duration
import ClusterGraph.Proofs.Gateway.InTurn
import ClusterGraph.Proofs.Work.Alone

/-!
# What is started for a request whose time is over

A bounded call looks at the deadline of its request only where it waits, while it looks for a
cancellation before it is begun. So a cancelled request starts nothing, but one whose deadline has
come still does: each of its mutations has a client built or makes its call, unless its document
cannot be prepared or its caller is unwelcome (`Gateway.inTurn_starts`). What is started then is
abandoned where it waits first, so no time passes, and a store that delays its calls changes no
object.
-/
namespace ClusterGraph

/-- No client is sought for a request: it has been cancelled, or its identity is blank or has
expired. -/
def Request.IsTurnedAway {β : Type} (r : Request) (w : World β) : Prop :=
  cancelled r.cancelAt w = true ∨ r.identity.isBlank = true ∨ r.identity.isExpiredAt w.wall = true

/-- The document of a mutation cannot be read or patched. -/
def Mutation.IsUnprepared : Mutation → Prop
  | .create raw patches => ∃ e, Document.prepare raw patches = .error e
  | .update _ raw patches => ∃ e, Document.prepare raw patches = .error e
  | .delete _ => False

namespace World

/-- Between two sessions no build of a client and no call has been started. -/
def StartsNothing (w v : World Store) : Prop :=
  v.backend.builds = w.backend.builds ∧ v.backend.calls = w.backend.calls

/-- A later session in which nobody is in the current slot of a caller. An object can have changed
only if a call has had time to be carried out. -/
structure Onward (r : Request) (w v : World Store) : Prop where
  now : w.now ≤ v.now
  wall : v.wall = w.wall
  ttl : v.cache.ttl = w.cache.ttl
  idle : v.cache.Idle r.key v.now
  builds : w.backend.builds ≤ v.backend.builds
  calls : w.backend.calls <+: v.backend.calls
  delay : v.backend.delay = w.backend.delay
  objects : v.backend.objects = w.backend.objects ∨ w.now + w.backend.delay ≤ v.now

/-- A later session for which a build or a call has been started. -/
def Started (r : Request) (w v : World Store) : Prop := w.Onward r v ∧ ¬ w.StartsNothing v

/-- A later session for which a build or a call has been started unless a condition holds. -/
def StartsUnless (r : Request) (condition : Prop) (w v : World Store) : Prop :=
  w.Onward r v ∧ (w.StartsNothing v ↔ condition)

/-- A session in which the build of a client has been started. -/
def building (w : World Store) : World Store :=
  w.mapBackend fun s => { s with builds := s.builds + 1 }

/-- A session in which a request may go on: its deadline has not passed, the clock reaches the end
of every client till then, and nobody is in the current slot of its caller. -/
structure Open (r : Request) (deadline : Nat) (w : World Store) : Prop where
  begun : w.now ≤ deadline
  lasts : deadline + w.cache.ttl ≤ clockEnd
  idle : w.cache.Idle r.key w.now

variable {r : Request} {u v w : World Store} {deadline : Nat}

theorem Onward.refl (idle : w.cache.Idle r.key w.now) : w.Onward r w where
  now := Nat.le_refl _
  wall := rfl
  ttl := rfl
  idle := idle
  builds := Nat.le_refl _
  calls := List.prefix_refl _
  delay := rfl
  objects := .inl rfl

theorem Onward.trans (first : u.Onward r v) (second : v.Onward r w) : u.Onward r w where
  now := Nat.le_trans first.now second.now
  wall := second.wall.trans first.wall
  ttl := second.ttl.trans first.ttl
  idle := second.idle
  builds := Nat.le_trans first.builds second.builds
  calls := first.calls.trans second.calls
  delay := second.delay.trans first.delay
  objects := by
    have before := first.now
    have after := second.now
    rcases first.objects with same | carried
    · rcases second.objects with still | carried
      · exact .inl (still.trans same)
      · rw [first.delay] at carried
        exact .inr (by omega)
    · exact .inr (by omega)

/-- What is started is never taken back. -/
theorem startsNothing_trans_iff (first : u.Onward r v) (second : v.Onward r w) :
    u.StartsNothing w ↔ u.StartsNothing v ∧ v.StartsNothing w := by
  constructor
  · rintro ⟨builds, calls⟩
    have fewer := first.builds
    have more := second.builds
    have same : v.backend.calls = u.backend.calls :=
      (first.calls.eq_of_length_le (calls ▸ second.calls.length_le)).symm
    exact ⟨⟨by omega, same⟩, by omega, calls.trans same.symm⟩
  · rintro ⟨⟨builds, calls⟩, builds', calls'⟩
    exact ⟨builds'.trans builds, calls'.trans calls⟩

theorem Started.trans (first : u.Started r v) (second : v.Onward r w) : u.Started r w := by
  refine ⟨first.1.trans second, fun nothing => ?_⟩
  exact first.2 ((startsNothing_trans_iff first.1 second).mp nothing).1

theorem Onward.isTurnedAway_iff (on : w.Onward r v) (still : v.now = w.now) :
    r.IsTurnedAway v ↔ r.IsTurnedAway w := by
  have same : cancelled r.cancelAt v = cancelled r.cancelAt w := by
    simp only [cancelled, Clocked.now, still]
  unfold Request.IsTurnedAway
  rw [same, on.wall]

/-- A request that is turned away stays so. -/
theorem Onward.isTurnedAway (on : w.Onward r v) (away : r.IsTurnedAway w) : r.IsTurnedAway v := by
  rcases away with cancelled_ | unwelcome
  · left
    cases moment : r.cancelAt with
    | none => simp [cancelled, moment] at cancelled_
    | some t =>
      have before := on.now
      simp only [cancelled, moment, decide_eq_true_eq, Clocked.now] at cancelled_ ⊢
      omega
  · right
    rw [on.wall]
    exact unwelcome

theorem Open.onward (opened : w.Open r deadline) (on : w.Onward r v) (begun : v.now ≤ deadline) :
    v.Open r deadline where
  begun := begun
  lasts := on.ttl ▸ opened.lasts
  idle := on.idle

/-- A build has been started. -/
theorem started_of_build (now : w.now ≤ v.now) (wall : v.wall = w.wall)
    (ttl : v.cache.ttl = w.cache.ttl) (idle : v.cache.Idle r.key v.now)
    (built : v.backend = { w.backend with builds := w.backend.builds + 1 }) : w.Started r v := by
  constructor
  · constructor
    · exact now
    · exact wall
    · exact ttl
    · exact idle
    · simp [built]
    · simp [built]
    · simp [built]
    · simp [built]
  · rintro ⟨builds, -⟩
    simp [built] at builds

/-- A call has been made. -/
theorem started_of_call {call : RecordedCall} (idle : w.cache.Idle r.key w.now)
    (now : w.now ≤ v.now) (wall : v.wall = w.wall) (cache : v.cache = w.cache)
    (builds : v.backend.builds = w.backend.builds)
    (calls : v.backend.calls = w.backend.calls ++ [call])
    (delay : v.backend.delay = w.backend.delay)
    (objects : v.backend.objects = w.backend.objects ∨ w.now + w.backend.delay ≤ v.now) :
    w.Started r v := by
  constructor
  · constructor
    · exact now
    · exact wall
    · rw [cache]
    · rw [cache]
      exact idle.later now
    · exact Nat.le_of_eq builds.symm
    · rw [calls]
      exact List.prefix_append _ _
    · exact delay
    · exact objects
  · rintro ⟨-, same⟩
    simp [calls] at same

end World

/-! ## Clients -/

section Clients
open World (Onward StartsNothing Started Open)
variable {r : Request} {w : World Store}

theorem alone_buildClient (identity : Identity) (scope : Scope) (w : World Store) :
    Work.Alone (Work.Later w.building)
      (fun answer v => Work.Later w.building v ∧ ∀ c, answer = .ok c → c.scope = scope)
      (Store.buildClient identity scope) w := by
  apply Work.Alone.act
  refine (Work.alone_sleep _ _).bind ?_
  rintro _ v ⟨later, -⟩
  apply Work.Alone.act
  split
  · exact .done ⟨later, nofun⟩
  · refine .done ⟨later, ?_⟩
    rintro c ⟨⟩
    rfl

/-- The caller that comes to a vacant slot starts a build, and is out of the slot when that has
ended or was abandoned. -/
theorem alone_visit {cache : Cache} {n : Nat} (vacant : cache.Vacant r.key n)
    (ttl : cache.ttl = w.cache.ttl) :
    Work.Alone (w.Started r) (fun _ v => w.Started r v)
      (visit Store.buildClient r.key (some n)) { w with cache := cache } := by
  have empty : cache.held? n = none := vacant.held?_eq_none
  apply Work.Alone.act
  simp only [World.enter, empty]
  apply Work.Alone.act
  have turn : World.mayProceed n w.tickets
      { w with cache := cache.modify n (·.join w.tickets), tickets := w.tickets + 1 } = true := by
    simp [World.mayProceed, vacant.join, Slot.mayProceed]
  rw [if_pos turn]
  apply Work.Alone.act
  have still : (cache.modify n (·.join w.tickets)).held? n = none := by simp [empty]
  simp only [id, still]
  have built := alone_buildClient r.identity r.scope.normalized
    { w with cache := cache.modify n (·.join w.tickets), tickets := w.tickets + 1 }
  refine (built.onAbandon ?_).bind ?_
  · -- A caller that is cut off while its client is built leaves the slot empty.
    rintro _ ⟨now, reached, rfl⟩
    exact World.started_of_build reached rfl ttl (vacant.leave w.tickets) rfl
  · rintro (e | c) _ ⟨⟨now, reached, rfl⟩, within⟩
    · apply Work.Alone.act
      refine .act (.done ?_)
      exact World.started_of_build reached rfl
        ((Cache.Change.ttl_eq _ _ (Cache.change_sweep _ _ _)).trans ttl)
        (vacant.sweep w.tickets w.wall).1 rfl
    · apply Work.Alone.act
      refine .act (.done ?_)
      exact World.started_of_build reached rfl ttl (vacant.settle w.tickets c (within c rfl)) rfl

/-- What comes of it when a client is sought for a request. -/
inductive Sought {ε : Type} (r : Request) (w : World Store) :
    Except ε Client → World Store → Prop where
  | withheld {e : ε} {v : World Store} (away : r.IsTurnedAway w) (on : w.Onward r v)
      (nothing : w.StartsNothing v) : Sought r w (.error e) v
  | found (welcome : ¬ r.IsTurnedAway w) (c : Client) : Sought r w (.ok c) w
  | built {answer : Except ε Client} {v : World Store} (welcome : ¬ r.IsTurnedAway w)
      (started : w.Started r v) : Sought r w answer v

theorem alone_acquire (idle : w.cache.Idle r.key w.now) (lasts : w.now + w.cache.ttl ≤ clockEnd)
    (uncancelled : cancelled r.cancelAt w = false) :
    Work.Alone (fun v => ¬ r.IsTurnedAway w ∧ w.Started r v) (Sought r w)
      (acquire Store.backend r.identity r.scope) w := by
  unfold acquire acquireFrom
  cases blank : r.identity.isBlank with
  | true =>
    have away : r.IsTurnedAway w := .inr (.inl blank)
    exact .done (.withheld away (.refl idle) ⟨rfl, rfl⟩)
  | false =>
    apply Work.Alone.act
    cases expired : r.identity.isExpiredAt w.wall with
    | true =>
      have away : r.IsTurnedAway w := .inr (.inr expired)
      refine .act (.done (.withheld away ?_ ⟨rfl, rfl⟩))
      have evicted := idle.lose (w.cache.evict r.identity) rfl (w.cache.index_evict_subset _)
      exact { World.Onward.refl idle with idle := evicted }
    | false =>
      have welcome : ¬ r.IsTurnedAway w := by
        simp [Request.IsTurnedAway, uncancelled, blank, expired]
      apply Work.Alone.act
      apply Work.Alone.act
      change Work.Alone _ _ (visit Store.buildClient r.key (w.seek r.key w.now).1)
        (w.seek r.key w.now).2
      unfold World.seek
      rw [idle.outlivesClock lasts]
      rcases idle.slotFor w.wall with ⟨n, entry, found, held, -, -⟩ |
        ⟨cache, n, found, vacant, ttl, -⟩
      · rw [found]
        have hit : w.enter n = (.hit entry.client, w) := by
          unfold World.enter
          rw [held]
        apply Work.Alone.act
        change Work.Alone _ _ (awaitTurn Store.buildClient r.key n (w.enter n).1) (w.enter n).2
        rw [hit]
        exact .done (.found welcome entry.client)
      · rw [found]
        exact (alone_visit vacant ttl).mono (fun v started => ⟨welcome, started⟩)
          fun answer v started => .built welcome started

end Clients

/-! ## Mutations -/

namespace Gateway
open World (Onward StartsNothing Started Open)
variable {callTimeout requestTimeout deadline : Nat} {r : Request} {w : World Store} {α γ : Type}

/-- What comes of a bounded call that runs alone: it is not begun at all, ends by itself, or is
abandoned where it waits. If its limit lies beyond the end of the clock it comes to nothing. -/
theorem alone_bounded {left : World Store → Prop}
    {ends ends' : Except BackendError α → World Store → Prop} {call : Call Store α}
    (limit : Nat) (operation : String)
    (unbegun : cancelled r.cancelAt w = true → ∀ e, ends' (.error e) w)
    (begun : cancelled r.cancelAt w = false → Work.Alone left ends call w)
    (ended : ∀ a v, ends a v → ends' a v) (stopped : ∀ e v, left v → ends' (.error e) v) :
    Work.Alone (fun _ => True) ends' (r.bounded limit operation call) w := by
  apply Work.Alone.act
  split
  · exact .act (.wait (fun _ _ => trivial) nofun)
  · apply Work.Alone.act
    split
    · next beforehand => exact .done (unbegun beforehand _)
    · next uncancelled =>
      have alone := begun (eq_false_of_ne_true uncancelled)
      exact (alone.limited _ _ ended (stopped _) (stopped _)).mono (fun _ _ => trivial)
        fun _ _ => id

theorem alone_client (idle : w.cache.Idle r.key w.now)
    (lasts : w.now + w.cache.ttl ≤ clockEnd) :
    Work.Alone (fun _ => True) (Sought r w) ((ofStore callTimeout requestTimeout).client r) w := by
  have bounded : Work.Alone (fun _ => True) (Sought r w)
      (r.bounded callTimeout "client" (acquire Store.backend r.identity r.scope)) w := by
    refine alone_bounded _ _ ?_ (alone_acquire idle lasts) (fun _ _ => id) ?_
    · exact fun beforehand e => .withheld (.inl beforehand) (.refl idle) ⟨rfl, rfl⟩
    · exact fun e v started => .built started.1 started.2
  refine bounded.bind ?_
  rintro (e | c) v sought
  · cases sought with
    | withheld away on nothing => exact .done (.withheld away on nothing)
    | built welcome started => exact .done (.built welcome started)
  · cases sought with
    | found welcome c => exact .done (.found welcome c)
    | built welcome started => exact .done (.built welcome started)

/-- A command that is begun makes its call. -/
theorem alone_command (idle : w.cache.Idle r.key w.now) (call : RecordedCall)
    {f : Store → Except BackendError α × Store} (plain : Store.Plain f) :
    Work.Alone (w.Started r) (fun _ v => w.Started r v) (Store.enter call (Store.command f)) w := by
  have made {v : World Store} (later : Work.Later (w.mapBackend fun s => s.record call) v) :
      w.Started r v := by
    obtain ⟨now, reached, rfl⟩ := later
    exact World.started_of_call idle reached rfl rfl rfl rfl rfl (.inl rfl)
  apply Work.Alone.act
  refine ((Work.alone_sleep w.backend.delay _).mono (fun v => made) fun _ _ => id).bind ?_
  rintro _ v ⟨later, passed⟩
  cases w.backend.failure? call.kind with
  | some e => exact .done (made later)
  | none =>
    obtain ⟨now, reached, rfl⟩ := later
    have frame := plain.frame (w.backend.record call)
    have builds : (f (w.backend.record call)).2.builds = w.backend.builds := by
      rw [frame]
      rfl
    have calls : (f (w.backend.record call)).2.calls = w.backend.calls ++ [call] := by
      rw [frame]
      rfl
    have delay : (f (w.backend.record call)).2.delay = w.backend.delay := by
      rw [frame]
      rfl
    refine .act (.done ?_)
    exact World.started_of_call idle reached rfl rfl builds calls delay (.inr passed)

/-- What the session is like that a call leaves does not depend on what is made of its answer. -/
theorem alone_next_stage {left holds : World Store → Prop} {call : Call Store α}
    (alone : Work.Alone left (fun _ => holds) call w) (s : Stage) (remodel : α → Except Failure γ) :
    Work.Alone left (fun _ => holds) (next (stage s call) fun a => .done (remodel a)) w := by
  have staged : Work.Alone left (fun _ => holds) (stage s call) w := by
    refine alone.bind ?_
    rintro (e | a) v known
    · exact .done known
    · exact .done known
  refine staged.bind ?_
  rintro (e | a) v known
  · exact .done known
  · exact .done known

/-- The call of a mutation is made, unless the request is cancelled before. -/
theorem alone_stage (idle : w.cache.Idle r.key w.now) (s : Stage) (operation : String)
    (call : RecordedCall) {f : Store → Except BackendError α × Store} (plain : Store.Plain f)
    (remodel : α → Except Failure γ) :
    Work.Alone (fun _ => True)
      (fun _ v => cancelled r.cancelAt w = true ∧ v = w ∨ w.Started r v)
      (next (stage s (r.bounded callTimeout operation (Store.enter call (Store.command f))))
        fun a => .done (remodel a)) w := by
  apply alone_next_stage
  refine alone_bounded _ _ ?_ (fun _ => alone_command idle call plain) ?_ ?_
  · exact fun beforehand e => .inl ⟨beforehand, rfl⟩
  · exact fun a v started => .inr started
  · exact fun e v started => .inr started

/-- A mutation that has its document starts a build or makes its call exactly if its request is not
turned away, whether the deadline has come or not. -/
theorem alone_mutate (idle : w.cache.Idle r.key w.now) (lasts : w.now + w.cache.ttl ≤ clockEnd)
    (s : Stage) (operation : String) (call : RecordedCall)
    {f : Option String → Store → Except BackendError α × Store}
    (plain : ∀ restriction, Store.Plain (f restriction)) (remodel : α → Except Failure γ) :
    Work.Alone (fun _ => True) (fun _ => w.StartsUnless r (r.IsTurnedAway w))
      ((ofStore callTimeout requestTimeout).mutate r s operation call f remodel) w := by
  refine (alone_client idle lasts).bind ?_
  rintro (e | c) v sought
  · cases sought with
    | withheld away on nothing => exact .done ⟨on, iff_of_true nothing away⟩
    | built welcome started => exact .done ⟨started.1, iff_of_false started.2 welcome⟩
  · cases sought with
    | found welcome c =>
      refine (alone_stage idle s operation call (plain _) remodel).mono (fun _ => id) ?_
      rintro _ v (⟨beforehand, -⟩ | started)
      · exact absurd (.inl beforehand) welcome
      · exact ⟨started.1, iff_of_false started.2 welcome⟩
    | built welcome started =>
      refine (alone_stage started.1.idle s operation call (plain _) remodel).mono (fun _ => id) ?_
      rintro _ u (⟨-, rfl⟩ | further)
      · exact ⟨started.1, iff_of_false started.2 welcome⟩
      · have both := started.trans further.1
        exact ⟨both.1, iff_of_false both.2 welcome⟩

/-- A mutation starts nothing exactly if its document cannot be prepared or its request is turned
away. -/
theorem alone_carryOut (requestTimeout : Nat) (idle : w.cache.Idle r.key w.now)
    (lasts : w.now + w.cache.ttl ≤ clockEnd) (m : Mutation) :
    Work.Alone (fun _ => True) (fun _ => w.StartsUnless r (r.IsTurnedAway w ∨ m.IsUnprepared))
      ((ofStore callTimeout requestTimeout).carryOut r m) w := by
  have unprepared {answer : Except Failure Resource} (failed : m.IsUnprepared) :
      Work.Alone (fun _ => True) (fun _ => w.StartsUnless r (r.IsTurnedAway w ∨ m.IsUnprepared))
        (.done answer) w :=
    .done ⟨.refl idle, iff_of_true ⟨rfl, rfl⟩ (.inr failed)⟩
  have prepared {work : Operation Store Resource} (ready : ¬ m.IsUnprepared)
      (alone : Work.Alone (fun _ => True) (fun _ => w.StartsUnless r (r.IsTurnedAway w)) work w) :
      Work.Alone (fun _ => True) (fun _ => w.StartsUnless r (r.IsTurnedAway w ∨ m.IsUnprepared))
        work w := by
    simp only [ready, or_false]
    exact alone
  cases m with
  | create raw patches =>
    change Work.Alone _ _ ((ofStore callTimeout requestTimeout).create r raw patches) w
    rw [create_eq]
    cases document : Document.prepare raw patches with
    | error e => exact unprepared ⟨e, document⟩
    | ok d =>
      refine prepared (by simp [Mutation.IsUnprepared, document]) ?_
      exact alone_mutate idle lasts _ _ _ (fun restriction => Store.plain_create restriction d) _
  | update reference raw patches =>
    change Work.Alone _ _ ((ofStore callTimeout requestTimeout).update r reference raw patches) w
    rw [update_eq]
    cases document : Document.prepare raw patches with
    | error e => exact unprepared ⟨e, document⟩
    | ok d =>
      refine prepared (by simp [Mutation.IsUnprepared, document]) ?_
      exact alone_mutate idle lasts _ _ _
        (fun restriction => Store.plain_update restriction reference d) _
  | delete reference =>
    obtain ⟨snapshot, remodelled, -⟩ := Resource.ofDocument_ofReference reference
    change Work.Alone _ _ ((ofStore callTimeout requestTimeout).delete r reference) w
    rw [delete_eq callTimeout requestTimeout r reference snapshot remodelled]
    refine prepared (by simp [Mutation.IsUnprepared]) ?_
    exact alone_mutate idle lasts _ _ _
      (fun restriction => Store.plain_delete restriction reference) _

/-! ## One after another -/

section Deadline
variable (requestTimeout : Nat) (given : r.deadline = some deadline)
  (reached : deadline + callTimeout ≤ clockEnd)
include given reached

/-- A mutation of a request that is begun by the deadline has an answer by then. -/
theorem run_carryOut (opened : w.Open r deadline) (m : Mutation) :
    ∃ answer v, ((ofStore callTimeout requestTimeout).carryOut r m).run w = (some answer, v) ∧
      v.Open r deadline ∧ w.StartsUnless r (r.IsTurnedAway w ∨ m.IsUnprepared) v := by
  have timely : Work.Over False deadline
      ((ofStore callTimeout requestTimeout).carryOut r m) w.now := by
    have due : (ofStore callTimeout requestTimeout).DueBy r False w.now deadline :=
      dueBy_deadline given (.inr reached) (.inr opened.begun)
    cases m with
    | create raw patches => exact timely_create Store.keepsTime_backend due raw patches
    | update reference raw patches =>
      exact timely_update Store.keepsTime_backend due reference raw patches
    | delete reference => exact timely_delete Store.keepsTime_backend due reference
  obtain ⟨answer, answered⟩ := Option.isSome_iff_exists.mp
    (timely.answered (s := w) not_false)
  have ended : ((ofStore callTimeout requestTimeout).carryOut r m).run w =
      (some answer, (((ofStore callTimeout requestTimeout).carryOut r m).run w).2) :=
    Prod.ext answered rfl
  have lasts : w.now + w.cache.ttl ≤ clockEnd := by
    have begun := opened.begun
    have lasts := opened.lasts
    omega
  obtain ⟨on, starts⟩ := (alone_carryOut requestTimeout opened.idle lasts m).run ended
  exact ⟨answer, _, ended, opened.onward on (timely.run opened.begun), on, starts⟩

/-- Mutations one after another are all answered by the deadline. They start nothing if the request
is turned away. Once the deadline has come, they start nothing only then, or if none of them has a
document. -/
theorem inTurn_starts (opened : w.Open r deadline) (mutations : List Mutation) :
    ∃ answers v, (ofStore callTimeout requestTimeout).inTurn r mutations w = (some answers, v) ∧
      v.Open r deadline ∧ w.Onward r v ∧ (r.IsTurnedAway w → w.StartsNothing v) ∧
      (w.now = deadline → (w.StartsNothing v ↔
        r.IsTurnedAway w ∨ ∀ m ∈ mutations, m.IsUnprepared)) := by
  induction mutations generalizing w with
  | nil =>
    refine ⟨[], w, rfl, opened, .refl opened.idle, fun _ => ⟨rfl, rfl⟩, fun _ => ?_⟩
    exact iff_of_true ⟨rfl, rfl⟩ (.inr nofun)
  | cons m rest ih =>
    obtain ⟨answer, v, first, still, on, starts⟩ :=
      run_carryOut requestTimeout given reached opened m
    obtain ⟨answers, u, later, last, further, refused, starts'⟩ := ih still
    refine ⟨answer :: answers, u, ?_, last, on.trans further, fun away => ?_, fun late => ?_⟩
    · unfold inTurn
      rw [first]
      dsimp only
      rw [later]
      rfl
    · rw [World.startsNothing_trans_iff on further]
      exact ⟨starts.mpr (.inl away), refused (on.isTurnedAway away)⟩
    · -- After the deadline no time passes, so the request is not cancelled any more.
      have stands : v.now = w.now := by
        have before := on.now
        have after := still.begun
        omega
      rw [World.startsNothing_trans_iff on further, starts, starts' (stands.trans late),
        on.isTurnedAway_iff stands, List.forall_mem_cons]
      by_cases away : r.IsTurnedAway w
      · simp [away]
      · simp [away]

end Deadline

end Gateway
end ClusterGraph
