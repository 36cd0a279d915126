import ClusterGraph.Proofs.Access.Idle
import ClusterGraph.Proofs.Gateway.Mutation
import ClusterGraph.Proofs.Work.AtOnce

/-!
# Reading without delay

If calls and builds take no time, a read is over at once. What it answers is settled by the session
in which the first of several reads for one caller is made (`Gateway.fetched`): each of them leaves
the session the same for that caller, but for clients and numbers that no answer depends on
(`Gateway.fetch_atOnce`).
-/
namespace ClusterGraph

/-- The key of the client that a request asks for. -/
def Request.key (r : Request) : CacheKey := ⟨r.identity, r.scope.normalized⟩

namespace World

/-- Why the caller of a request gets no client, if it gets none. -/
def refusal? (r : Request) (w : World Store) : Option BackendError :=
  if r.identity.isBlank then some (.invalidIdentity "empty credential")
  else if r.identity.isExpiredAt w.wall then some (.invalidIdentity "credential expired")
  else if w.backend.refuseBuilds && !w.cache.serves r.key w.now w.wall then
    some (.invalidIdentity "credential rejected")
  else none

section Welcome
variable {r : Request} {w : World Store} (seen : r.identity.isBlank = false)
  (valid : r.identity.isExpiredAt w.wall = false)
include seen valid

theorem refusal?_of_rejected (refuses : w.backend.refuseBuilds = true)
    (unserved : w.cache.serves r.key w.now w.wall = false) :
    w.refusal? r = some (.invalidIdentity "credential rejected") := by
  simp [refusal?, seen, valid, refuses, unserved]

theorem refusal?_of_accepted (builds : w.backend.refuseBuilds = false) : w.refusal? r = none := by
  simp [refusal?, seen, valid, builds]

theorem refusal?_of_served (served : w.cache.serves r.key w.now w.wall = true) :
    w.refusal? r = none := by
  simp [refusal?, seen, valid, served]

end Welcome

/-- Calls and builds take no time, nobody is in a current slot of the cache, and the clock reaches
the end of every client and of every call. -/
structure Prompt (callTimeout : Nat) (w : World Store) : Prop where
  delay : w.backend.delay = 0
  buildDelay : w.backend.buildDelay = 0
  idle : ∀ key, w.cache.Idle key w.now
  client_end : w.now + w.cache.ttl ≤ clockEnd
  call_end : w.now + callTimeout ≤ clockEnd

/-- Calls and builds take no time, and the clock reaches the end of every client and of every call,
whoever is in the cache. -/
structure Swift (callTimeout : Nat) (w : World Store) : Prop where
  delay : w.backend.delay = 0
  buildDelay : w.backend.buildDelay = 0
  client_end : w.now + w.cache.ttl ≤ clockEnd
  call_end : w.now + callTimeout ≤ clockEnd

theorem Prompt.swift {callTimeout : Nat} {w : World Store} (prompt : w.Prompt callTimeout) :
    w.Swift callTimeout :=
  ⟨prompt.delay, prompt.buildDelay, prompt.client_end, prompt.call_end⟩

/-- For the caller of a request a session is the same as another one, although calls may have been
made and clients built. -/
structure SameFor (r : Request) (w v : World Store) : Prop where
  now : v.now = w.now
  wall : v.wall = w.wall
  ttl : v.cache.ttl = w.cache.ttl
  backend : v.backend = { w.backend with calls := v.backend.calls, builds := v.backend.builds }
  idle : v.cache.Idle r.key v.now
  refusal : v.refusal? r = w.refusal? r

section SameFor
variable {callTimeout : Nat} {r : Request} {w v : World Store}

theorem SameFor.refl (idle : w.cache.Idle r.key w.now) : SameFor r w w :=
  ⟨rfl, rfl, rfl, rfl, idle, rfl⟩

theorem Prompt.sameFor (prompt : w.Prompt callTimeout) (r : Request) : SameFor r w w :=
  .refl (prompt.idle r.key)

theorem SameFor.swift (same : SameFor r w v) (swift : w.Swift callTimeout) :
    v.Swift callTimeout where
  delay := by
    rw [same.backend]
    exact swift.delay
  buildDelay := by
    rw [same.backend]
    exact swift.buildDelay
  client_end := by
    rw [same.now, same.ttl]
    exact swift.client_end
  call_end := by
    rw [same.now]
    exact swift.call_end

theorem cancelled_of_eq_none {cancelAt : Option Nat} (uncancelled : cancelAt = none)
    (w : World Store) : cancelled cancelAt w = false := by
  rw [uncancelled]
  rfl

/-- A request is cancelled in both sessions or in neither. -/
theorem SameFor.cancelled_eq (same : SameFor r w v) (cancelAt : Option Nat) :
    cancelled cancelAt v = cancelled cancelAt w := by
  have now : Clocked.now v = Clocked.now w := same.now
  unfold cancelled
  rw [now]

theorem SameFor.mapBackend (same : SameFor r w v) (f : Store → Store)
    (only : f v.backend =
      { v.backend with calls := (f v.backend).calls, builds := (f v.backend).builds }) :
    SameFor r w (v.mapBackend f) where
  now := same.now
  wall := same.wall
  ttl := same.ttl
  backend := by
    have before := same.backend
    simp only [World.mapBackend]
    rw [only, before]
  idle := same.idle
  refusal := by
    have refuses : (f v.backend).refuseBuilds = v.backend.refuseBuilds := by rw [only]
    have refusal := same.refusal
    simp only [refusal?, World.mapBackend, refuses] at refusal ⊢
    exact refusal

/-- A cache at rest may take the place of another one if it makes no difference to who gets a
client. -/
theorem SameFor.mapCache (same : SameFor r w v) (f : Cache → Cache)
    (idle : (f v.cache).Idle r.key v.now) (ttl : (f v.cache).ttl = v.cache.ttl)
    (refusal : (v.mapCache f).refusal? r = v.refusal? r) : SameFor r w (v.mapCache f) where
  now := same.now
  wall := same.wall
  ttl := ttl.trans same.ttl
  backend := same.backend
  idle := idle
  refusal := refusal.trans same.refusal

/-- A visit leaves another cache at rest, and numbers that no answer depends on. -/
theorem SameFor.visited (same : SameFor r w v) (cache : Cache) (tickets builds : Nat)
    (idle : cache.Idle r.key v.now) (ttl : cache.ttl = v.cache.ttl)
    (refusal : refusal? r { v with
      cache := cache, tickets := tickets, backend := { v.backend with builds := builds } } =
      v.refusal? r) :
    SameFor r w { v with
      cache := cache, tickets := tickets, backend := { v.backend with builds := builds } } where
  now := same.now
  wall := same.wall
  ttl := ttl.trans same.ttl
  backend := by
    have before := same.backend
    dsimp only
    rw [before]
  idle := idle
  refusal := refusal.trans same.refusal

end SameFor
end World

/-! ## Clients -/

section Clients
variable {callTimeout : Nat} {r : Request} {w v : World Store}

/-- What a caller gets where a client is refused or not. -/
def Client.Answers (r : Request) (refusal? : Option BackendError) :
    Except BackendError Client → Prop
  | .ok c => refusal? = none ∧ c.scope = r.scope.normalized
  | .error e => refusal? = some e

theorem buildClient_atOnce (identity : Identity) (scope : Scope) (v : World Store)
    (prompt : v.backend.buildDelay = 0) :
    Work.AtOnce (fun answer u => u = v.mapBackend (fun s => { s with builds := s.builds + 1 }) ∧
        ((v.backend.refuseBuilds = true ∧
            answer = .error (.invalidIdentity "credential rejected")) ∨
          (v.backend.refuseBuilds = false ∧ ∃ c, answer = .ok c ∧ c.scope = scope)))
      (Store.buildClient identity scope) v := by
  refine .act ?_
  rw [prompt]
  refine (Work.AtOnce.sleep _).bind ?_
  rintro _ u rfl
  refine .act ?_
  split
  · next refuses => exact .done ⟨rfl, .inl ⟨refuses, rfl⟩⟩
  · next builds => exact .done ⟨rfl, .inr ⟨eq_false_of_ne_true builds, _, rfl, rfl⟩⟩

/-- The caller that queues in a vacant slot builds its client at once. -/
theorem visit_atOnce (same : World.SameFor r w v) (prompt : v.backend.buildDelay = 0)
    (seen : r.identity.isBlank = false) (valid : r.identity.isExpiredAt v.wall = false)
    (cache : Cache) (n : Nat) (vacant : cache.Vacant r.key n) (ttl : cache.ttl = v.cache.ttl)
    (unserved : v.cache.serves r.key v.now v.wall = false) :
    Work.AtOnce (fun answer u => World.SameFor r w u ∧ Client.Answers r (w.refusal? r) answer)
      (visit Store.buildClient r.key (some n)) { v with cache := cache } := by
  have empty : cache.held? n = none := vacant.held?_eq_none
  refine .act ?_
  simp only [World.enter, empty]
  refine .act ?_
  have turn : World.mayProceed n v.tickets
      { v with cache := cache.modify n (·.join v.tickets), tickets := v.tickets + 1 } = true := by
    simp [World.mayProceed, vacant.join, Slot.mayProceed]
  rw [if_pos turn]
  refine .act ?_
  have still : (cache.modify n (·.join v.tickets)).held? n = none := by simp [empty]
  simp only [id, still]
  have built := buildClient_atOnce r.identity r.scope.normalized
    { v with cache := cache.modify n (·.join v.tickets), tickets := v.tickets + 1 } prompt
  refine (built.onAbandon (World.leaveSlot n v.tickets)).bind ?_
  rintro answer u ⟨rfl, ⟨refuses, rfl⟩ | ⟨builds, c, rfl, scope⟩⟩
  · have refusal := World.refusal?_of_rejected seen valid refuses unserved
    obtain ⟨idle, gone⟩ := vacant.sweep v.tickets v.wall
    refine .act (.act (.done ⟨?_, ?_⟩))
    · refine same.visited _ (v.tickets + 1) (v.backend.builds + 1) idle ?_ ?_
      · exact (Cache.Change.ttl_eq _ _ (Cache.change_sweep _ _ _)).trans ttl
      · rw [refusal]
        exact World.refusal?_of_rejected seen valid refuses gone
    · exact same.refusal.symm.trans refusal
  · have refusal := World.refusal?_of_accepted seen valid builds
    refine .act (.act (.done ⟨?_, same.refusal.symm.trans refusal, scope⟩))
    refine same.visited _ (v.tickets + 1) (v.backend.builds + 1)
      (vacant.settle v.tickets c scope) ttl ?_
    rw [refusal]
    exact World.refusal?_of_accepted seen valid builds

/-- A caller gets its client, or is refused, at once. -/
theorem acquire_atOnce (same : World.SameFor r w v) (swift : w.Swift callTimeout) :
    Work.AtOnce (fun answer u => World.SameFor r w u ∧ Client.Answers r (w.refusal? r) answer)
      (acquire Store.backend r.identity r.scope) v := by
  unfold acquire acquireFrom
  cases blank : r.identity.isBlank with
  | true =>
    refine .done ⟨same, ?_⟩
    simp [Client.Answers, World.refusal?, blank]
  | false =>
    refine .act ?_
    cases expired : r.identity.isExpiredAt v.wall with
    | true =>
      have refusal : w.refusal? r = some (.invalidIdentity "credential expired") := by
        simp [World.refusal?, blank, ← same.wall, expired]
      refine .act (.done ⟨?_, refusal⟩)
      refine same.mapCache _ (same.idle.lose _ rfl (v.cache.index_evict_subset _)) rfl ?_
      simp [World.refusal?, World.mapCache, blank, expired]
    | false =>
      have lasts := same.idle.outlivesClock (same.swift swift).client_end
      have builds : v.backend.buildDelay = 0 := (same.swift swift).buildDelay
      refine .act (.act ?_)
      change Work.AtOnce _ (visit Store.buildClient r.key (v.seek r.key v.now).1)
        (v.seek r.key v.now).2
      unfold World.seek
      rw [lasts]
      rcases same.idle.slotFor v.wall with ⟨n, entry, found, held, scope, served⟩ |
        ⟨cache, n, found, vacant, ttl, unserved⟩
      · rw [found]
        have refusal := World.refusal?_of_served blank expired served
        have hit : v.enter n = (.hit entry.client, v) := by
          unfold World.enter
          rw [held]
        refine .act ?_
        change Work.AtOnce _ (awaitTurn Store.buildClient r.key n (v.enter n).1) (v.enter n).2
        rw [hit]
        exact .done ⟨same, same.refusal.symm.trans refusal, scope⟩
      · rw [found]
        exact visit_atOnce same builds blank expired cache n vacant ttl unserved

end Clients

/-! ## Reads -/

namespace Gateway
variable {callTimeout requestTimeout : Nat} {r : Request} {w v : World Store} {α γ : Type}

theorem bounded_atOnce {ends : Except BackendError α → World Store → Prop} {call : Call Store α}
    (atOnce : Work.AtOnce ends call v) (uncancelled : cancelled r.cancelAt v = false)
    (reached : v.now + callTimeout ≤ clockEnd) (operation : String) :
    Work.AtOnce ends (r.bounded callTimeout operation call) v := by
  refine .act ?_
  simp only [later?, if_pos reached]
  exact atOnce.bounded uncancelled _ _ _

/-- A query with the client of the caller, restricted as that client is, and its answer
remodelled. -/
def fetch (g : Gateway Store) (r : Request) (s : Stage) (operation : String) (call : RecordedCall)
    (f : Option String → Store → Except BackendError α) (remodel : α → Except Failure γ) :
    Operation Store γ :=
  next (g.client r) fun c =>
    next (stage s (r.bounded g.callTimeout operation
      (Store.enter call (Store.query (f c.scope.nspace))))) fun a => .done (remodel a)

/-- What a query of the store answers, unless calls of its kind fail. -/
def queried (s : Store) (call : RecordedCall) (f : Store → Except BackendError α) :
    Except BackendError α :=
  match s.failure? call.kind with
  | some e => .error e
  | none => f s

def fetched (w : World Store) (r : Request) (s : Stage) (call : RecordedCall)
    (f : Option String → Store → Except BackendError α) (remodel : α → Except Failure γ) :
    Except Failure γ :=
  match w.refusal? r with
  | some e => .error (.of .clientAcquisition (.backend e))
  | none =>
    match queried w.backend call (f r.scope.normalized.nspace) with
    | .error e => .error (.of s (.backend e))
    | .ok a => remodel a

theorem client_atOnce (same : World.SameFor r w v) (swift : w.Swift callTimeout)
    (uncancelled : cancelled r.cancelAt w = false) :
    Work.AtOnce (fun answer u => World.SameFor r w u ∧
        match w.refusal? r with
        | some e => answer = .error (.of .clientAcquisition (.backend e))
        | none => ∃ c, answer = .ok c ∧ c.scope = r.scope.normalized)
      ((ofStore callTimeout requestTimeout).client r) v := by
  have reached : v.now + callTimeout ≤ clockEnd := (same.swift swift).call_end
  have uncancelled := (same.cancelled_eq r.cancelAt).trans uncancelled
  refine (bounded_atOnce (acquire_atOnce same swift) uncancelled reached "client").bind ?_
  rintro (e | c) u ⟨still, answers⟩
  · refine .done ⟨still, ?_⟩
    rw [show w.refusal? r = some e from answers]
  · refine .done ⟨still, ?_⟩
    rw [show w.refusal? r = none from answers.1]
    exact ⟨c, rfl, answers.2⟩

def staged (s : Stage) (remodel : α → Except Failure γ) : Except BackendError α → Except Failure γ
  | .error e => .error (.of s (.backend e))
  | .ok a => remodel a

/-- A call with the client of the caller, restricted as that client is. What the call itself answers
and leaves is known in every session that is the same for the caller. -/
theorem serve_atOnce (same : World.SameFor r w v) (swift : w.Swift callTimeout)
    (uncancelled : cancelled r.cancelAt w = false) (s : Stage) (operation : String)
    (call : Option String → Call Store α) {left : World Store} {served : Except BackendError α}
    (asked : ∀ v, World.SameFor r w v → Work.AtOnce
      (fun answer u => World.SameFor r left u ∧ answer = served)
      (call r.scope.normalized.nspace) v) (remodel : α → Except Failure γ) :
    Work.AtOnce (fun answer u =>
        match w.refusal? r with
        | some e => World.SameFor r w u ∧ answer = .error (.of .clientAcquisition (.backend e))
        | none => World.SameFor r left u ∧ answer = staged s remodel served)
      (next ((ofStore callTimeout requestTimeout).client r) fun c =>
        next (stage s (r.bounded callTimeout operation (call c.scope.nspace))) fun a =>
          .done (remodel a)) v := by
  refine (client_atOnce same swift uncancelled).bind ?_
  rintro answer u ⟨still, answers⟩
  cases refusal : w.refusal? r with
  | some e =>
    rw [refusal] at answers
    subst answers
    exact .done ⟨still, rfl⟩
  | none =>
    rw [refusal] at answers
    obtain ⟨c, rfl, scope⟩ := answers
    have reached : u.now + callTimeout ≤ clockEnd := (still.swift swift).call_end
    have uncancelled := (still.cancelled_eq r.cancelAt).trans uncancelled
    have bounded := bounded_atOnce (asked u still) uncancelled reached operation
    change Work.AtOnce _ (next (stage s _) _) u
    rw [scope]
    have staged : Work.AtOnce (fun answer u => World.SameFor r left u ∧
          answer = staged s .ok served)
        (stage s (r.bounded callTimeout operation (call r.scope.normalized.nspace))) u := by
      refine bounded.bind ?_
      rintro (e | a) u ⟨still, rfl⟩
      · exact .done ⟨still, rfl⟩
      · exact .done ⟨still, rfl⟩
    refine staged.bind ?_
    rintro _ u ⟨still, rfl⟩
    cases served with
    | error e => exact .done ⟨still, rfl⟩
    | ok a => exact .done ⟨still, rfl⟩

/-- The query itself. -/
theorem query_atOnce (same : World.SameFor r w v) (swift : w.Swift callTimeout)
    (call : RecordedCall) {f : Store → Except BackendError α}
    (blind : ∀ (s : Store) calls builds, f { s with calls := calls, builds := builds } = f s) :
    Work.AtOnce (fun answer u => World.SameFor r w u ∧ answer = queried w.backend call f)
      (Store.enter call (Store.query f)) v := by
  have delay : v.backend.delay = 0 := (same.swift swift).delay
  have failure : v.backend.failure? call.kind = w.backend.failure? call.kind := by
    rw [same.backend]
    rfl
  have recorded := same.mapBackend (fun s => { s with calls := s.calls ++ [call] }) rfl
  refine .act ?_
  rw [delay, failure]
  refine (Work.AtOnce.sleep _).bind ?_
  rintro _ u rfl
  unfold queried
  cases w.backend.failure? call.kind with
  | some e => exact .done ⟨recorded, rfl⟩
  | none =>
    refine .act (.done ⟨recorded, ?_⟩)
    rw [recorded.backend]
    exact blind _ _ _

/-- A read is over at once, and its answer does not depend on the reads before it. -/
theorem fetch_atOnce (same : World.SameFor r w v) (swift : w.Swift callTimeout)
    (uncancelled : cancelled r.cancelAt w = false) (s : Stage) (operation : String)
    (call : RecordedCall) {f : Option String → Store → Except BackendError α}
    (blind : ∀ restriction (s : Store) calls builds,
      f restriction { s with calls := calls, builds := builds } = f restriction s)
    (remodel : α → Except Failure γ) :
    Work.AtOnce (fun answer u => World.SameFor r w u ∧ answer = fetched w r s call f remodel)
      ((ofStore callTimeout requestTimeout).fetch r s operation call f remodel) v := by
  refine (serve_atOnce same swift uncancelled s operation
    (fun restriction => Store.enter call (Store.query (f restriction)))
    (fun v same => query_atOnce same swift call (blind _)) remodel).mono ?_
  intro answer u ended
  unfold fetched
  cases refusal : w.refusal? r with
  | some e =>
    rw [refusal] at ended
    exact ended
  | none =>
    rw [refusal] at ended
    obtain ⟨still, rfl⟩ := ended
    refine ⟨still, ?_⟩
    dsimp only
    cases queried w.backend call (f r.scope.normalized.nspace) <;> rfl

section Kinds
variable (callTimeout requestTimeout r)

theorem get_eq (reference : Reference) :
    (ofStore callTimeout requestTimeout).get r reference =
      (ofStore callTimeout requestTimeout).fetch r .get "get" (.get reference)
        (fun restriction s => s.get restriction reference) Resource.ofDocument := rfl

theorem definition_eq (name : String) :
    (ofStore callTimeout requestTimeout).definition r name =
      (ofStore callTimeout requestTimeout).fetch r .get "get" (.get (Definition.reference name))
        (fun restriction s => s.get restriction (Definition.reference name))
        Definition.ofDocument := rfl

theorem list_eq (request : ListRequest) (remodel : Document → Except Failure α)
    (key : α → NodeKey) :
    (ofStore callTimeout requestTimeout).list r request remodel key =
      (ofStore callTimeout requestTimeout).fetch r .list "list" (.list request)
        (fun restriction s => s.list restriction request) (remodelAll remodel key) := rfl

end Kinds
end Gateway
end ClusterGraph
