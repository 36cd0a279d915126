import Mathlib.Data.List.Infix
import ClusterGraph.Proofs.Access.Filled
import ClusterGraph.Proofs.Gateway.Alike
import ClusterGraph.Store.Backend

/-!
# The cache does not show

A session in which one errand is run after another is compared with the session that has no cache
and builds a client for every errand. If building takes no time and always ends the same for the
same identity and scope, both give the same answers, and leave the same objects and recorded calls
(`Gateway.transparent`). What differs is the number of builds, and with it the numbers of the
clients, which no call of the store looks at.

The clock has to reach the end of the time to live of every client: the end is computed whenever a
client is looked up, and if the clock does not reach it, everything ends
(`Gateway.cache_shows_beyond_clock`).
-/
namespace ClusterGraph

/-! ## Factories that always decide alike -/

def Client.unnumbered (c : Client) : Client := { c with serial := 0 }

/-- What becomes of every build for an identity within a scope. The number of the client is left
open. -/
abbrev Verdict := Identity → Scope → Except BackendError Client

def steadyBuild (verdict : Verdict) : Factory Store := fun identity scope =>
  .act (World.mapBackend fun s => { s with builds := s.builds + 1 }) fun w =>
    .done ((verdict identity scope).map fun c => { c with serial := w.backend.builds })

/-- How the store decides: it refuses to build clients, or builds each one as it is asked for. -/
def Store.verdict (refuse : Bool) : Verdict := fun identity scope =>
  if refuse then .error (.invalidIdentity "credential rejected") else .ok ⟨0, identity, scope⟩

/-- The factory of the store is a steady one if building takes no time. -/
theorem Store.run_buildClient (identity : Identity) (scope : Scope) (w : World Store)
    (prompt : w.backend.buildDelay = 0) :
    (Store.buildClient identity scope).run w =
      (steadyBuild (Store.verdict w.backend.refuseBuilds) identity scope).run w := by
  simp only [buildClient, steadyBuild, Store.verdict, Work.run, Work.sleep, Work.look, Work.bind,
    prompt, if_true, World.mapBackend, id]
  cases w.backend.refuseBuilds <;> rfl

/-! ## Sessions with and without a cache -/

/-- A client that was put into a slot by now, and is what the verdict is for its key. -/
structure CacheEntry.IsBy (verdict : Verdict) (now : Nat) (key : CacheKey) (entry : CacheEntry) :
    Prop where
  created : entry.created ≤ now
  made : ∃ client, verdict key.identity key.scope = .ok client ∧
    entry.client.unnumbered = client.unnumbered

/-- Two sessions that differ in their caches and in their numbers of builds only. The cache of the
second one is never used. -/
structure World.Abreast (w v : World Store) : Prop where
  now : w.now = v.now
  wall : w.wall = v.wall
  halted : w.halted = v.halted
  backend : ∃ n, w.backend = { v.backend with builds := n }
  bare : v.cache.index = []

/-- The first session may use its cache instead of building: every client that is current there is
what the verdict is. -/
structure World.Covers (verdict : Verdict) (ttl : Nat) (w v : World Store) : Prop extends
    World.Abreast w v where
  ttl : w.cache.ttl = ttl
  filled : w.cache.Filled (CacheEntry.IsBy verdict w.now)

namespace World
variable {verdict : Verdict} {ttl : Nat} {w v : World Store}

theorem Covers.later (covers : Covers verdict ttl w v) (now : Nat) (ahead : w.now ≤ now) :
    Covers verdict ttl { w with now := now } { v with now := now } where
  now := rfl
  wall := covers.wall
  halted := covers.halted
  backend := covers.backend
  bare := covers.bare
  ttl := covers.ttl
  filled := covers.filled.mono fun _ _ fine => ⟨Nat.le_trans fine.created ahead, fine.made⟩

theorem companions_covers (verdict : Verdict) (ttl : Nat) : Companions (Covers verdict ttl) where
  clock _ _ covers := covers.now
  moves _ _ now covers ahead := covers.later now ahead
  halts _ _ covers :=
    ⟨⟨covers.now, covers.wall, rfl, covers.backend, covers.bare⟩, covers.ttl, covers.filled⟩

/-- The cache of the first session has only lost slots. -/
theorem Covers.lose (covers : Covers verdict ttl w v) (f : Cache → Cache)
    (slots : (f w.cache).slots = w.cache.slots) (fewer : (f w.cache).index ⊆ w.cache.index)
    (limit : (f w.cache).ttl = w.cache.ttl) : Covers verdict ttl (w.mapCache f) v where
  now := covers.now
  wall := covers.wall
  halted := covers.halted
  backend := covers.backend
  bare := covers.bare
  ttl := limit.trans covers.ttl
  filled := covers.filled.lose (f w.cache) slots fewer

/-- Both backends change, whatever the numbers of builds are. -/
theorem Covers.mapBackend (covers : Covers verdict ttl w v) (f : Store → Store)
    (blind : ∀ s n, f { s with builds := n } = { f s with builds := n }) :
    Covers verdict ttl (w.mapBackend f) (v.mapBackend f) where
  now := covers.now
  wall := covers.wall
  halted := covers.halted
  backend := by
    obtain ⟨n, same⟩ := covers.backend
    exact ⟨n, (congrArg f same).trans (blind v.backend n)⟩
  bare := covers.bare
  ttl := covers.ttl
  filled := covers.filled

end World

/-! ## Calls -/

namespace Store
variable {verdict : Verdict} {ttl : Nat} {w v : World Store} {α : Type}

/-- An answer that does not depend on the number of builds. -/
theorem alike_query {f : Store → Except BackendError α}
    (blind : ∀ s n, f { s with builds := n } = f s) (covers : World.Covers verdict ttl w v) :
    Work.Alike (World.Covers verdict ttl) (Concur Eq) (query f) w (query f) v := by
  obtain ⟨n, same⟩ := covers.backend
  refine .both (.done ?_ covers)
  rw [same, blind]
  exact .refl _

/-- An answer and a change that do not depend on the number of builds. -/
theorem alike_command {f : Store → Except BackendError α × Store}
    (blind : ∀ s n, f { s with builds := n } = ((f s).1, { (f s).2 with builds := n }))
    (covers : World.Covers verdict ttl w v) :
    Work.Alike (World.Covers verdict ttl) (Concur Eq) (command f) w (command f) v := by
  obtain ⟨n, same⟩ := covers.backend
  have changed := covers.mapBackend (fun s => (f s).2) fun s n => by rw [blind]
  refine .both (.done ?_ changed)
  rw [same, blind]
  exact .refl _

/-- A call is recorded, takes its time and goes on alike. -/
theorem alike_enter {call : RecordedCall} {next next' : Call Store α}
    (rest : ∀ w v, World.Covers verdict ttl w v →
      Work.Alike (World.Covers verdict ttl) (Concur Eq) next w next' v)
    (covers : World.Covers verdict ttl w v) :
    Work.Alike (World.Covers verdict ttl) (Concur Eq) (enter call next) w (enter call next') v := by
  obtain ⟨n, same⟩ := covers.backend
  have recorded := covers.mapBackend (fun s => { s with calls := s.calls ++ [call] }) fun _ _ => rfl
  have delay : w.backend.delay = v.backend.delay := by rw [same]
  have failure : w.backend.failure? call.kind = v.backend.failure? call.kind := by
    rw [same]
    rfl
  refine .both ?_
  rw [delay, failure]
  refine (Work.Alike.sleep (World.companions_covers verdict ttl).toPaced _ recorded).bind ?_
  intro _ _ w v _ covers
  split
  · exact .done (.error _) covers
  · exact rest w v covers

theorem create_builds (s : Store) (n : Nat) (restriction : Option String) (d : Document) :
    create { s with builds := n } restriction d =
      ((create s restriction d).1, { (create s restriction d).2 with builds := n }) := by
  unfold create
  split
  · rfl
  · dsimp only
    split <;> rfl

theorem update_builds (s : Store) (n : Nat) (restriction : Option String) (r : Reference)
    (d : Document) :
    update { s with builds := n } restriction r d =
      ((update s restriction r d).1, { (update s restriction r d).2 with builds := n }) := by
  unfold update
  split
  · rfl
  · dsimp only
    split <;> rfl

theorem delete_builds (s : Store) (n : Nat) (restriction : Option String) (r : Reference) :
    delete { s with builds := n } restriction r =
      ((delete s restriction r).1, { (delete s restriction r).2 with builds := n }) := by
  unfold delete
  split
  · rfl
  · dsimp only
    split <;> rfl

/-- The calls of two clients with the same restriction go alike. -/
theorem callsAlike (c c' : Client) (scope : c.scope = c'.scope) (build : Factory Store) :
    ({ Store.backend with build := build }).CallsAlike (World.Covers verdict ttl) c c' where
  list request w v covers := by
    simp only [Store.backend, scope]
    exact alike_enter (fun _ _ => alike_query fun _ _ => rfl) covers
  get reference w v covers := by
    simp only [Store.backend, scope]
    exact alike_enter (fun _ _ => alike_query fun _ _ => rfl) covers
  create document w v covers := by
    simp only [Store.backend, scope]
    exact alike_enter (fun _ _ => alike_command fun s n => s.create_builds n _ _) covers
  update reference document w v covers := by
    simp only [Store.backend, scope]
    exact alike_enter (fun _ _ => alike_command fun s n => s.update_builds n _ _ _) covers
  delete reference w v covers := by
    simp only [Store.backend, scope]
    exact alike_enter (fun _ _ => alike_command fun s n => s.delete_builds n _ _) covers

end Store

/-! ## Acquisition -/

/-- Two clients that differ in their numbers only. -/
def Client.Matches (c c' : Client) : Prop := c.unnumbered = c'.unnumbered

section Acquisition
variable {verdict : Verdict} {ttl : Nat} {w v : World Store} {key : CacheKey} {n : Nat} {s : Slot}

theorem World.Abreast.built (abreast : w.Abreast v) :
    w.Abreast (v.mapBackend fun s => { s with builds := s.builds + 1 }) := by
  obtain ⟨m, same⟩ := abreast.backend
  exact ⟨abreast.now, abreast.wall, abreast.halted, ⟨m, same⟩, abreast.bare⟩

/-- A build concludes with a filled slot or none. -/
theorem alike_conclude (abreast : w.Abreast v) (limit : w.cache.ttl = ttl)
    (opens : w.cache.Opens (CacheEntry.IsBy verdict w.now) n s) (ticket number number' : Nat) :
    Work.Alike (World.Covers verdict ttl) (Concur Client.Matches)
      (conclude s.key n ticket
        ((verdict s.key.identity s.key.scope).map fun c => { c with serial := number })) w
      (.done ((verdict s.key.identity s.key.scope).map fun c => { c with serial := number' }))
      v := by
  cases decided : verdict s.key.identity s.key.scope with
  | ok c =>
    have fine : CacheEntry.IsBy verdict w.now s.key ⟨{ c with serial := number }, w.now⟩ :=
      ⟨Nat.le_refl _, c, decided, rfl⟩
    have settled := opens.settle n s _ fine
    refine .left (.left (.done (.ok _ _ rfl) ?_))
    exact ⟨{ abreast with }, limit, settled⟩
  | error e =>
    have vacated := opens.modify n s (·.leave ticket) (fun s => s.key_leave ticket)
      fun s => s.entry_leave ticket
    have swept := vacated.sweep n (s.leave ticket)
    rw [s.key_leave ticket] at swept
    refine .left (.left (.done (.error e) ?_))
    refine ⟨{ abreast with }, ?_, swept⟩
    exact (Cache.Change.ttl_eq _ _ (Cache.change_sweep _ _ _)).trans limit

/-- The caller at an empty slot builds. -/
theorem alike_proceed (abreast : w.Abreast v) (limit : w.cache.ttl = ttl)
    (opens : w.cache.Opens (CacheEntry.IsBy verdict w.now) n s) (ticket : Nat) :
    Work.Alike (World.Covers verdict ttl) (Concur Client.Matches)
      (proceed (steadyBuild verdict) s.key n ticket) w
      (steadyBuild verdict s.key.identity s.key.scope) v := by
  have counted : (w.mapBackend fun s => { s with builds := s.builds + 1 }).Abreast
      (v.mapBackend fun s => { s with builds := s.builds + 1 }) := by
    obtain ⟨m, same⟩ := abreast.backend
    refine ⟨abreast.now, abreast.wall, abreast.halted, ⟨w.backend.builds + 1, ?_⟩, abreast.bare⟩
    simp only [World.mapBackend, same]
  refine .left ?_
  rw [opens.held?_eq_none]
  exact .both (alike_conclude counted limit opens ticket _ _)

/-- The first caller at a new slot need not wait. -/
theorem alike_visit_new (abreast : w.Abreast v) (limit : w.cache.ttl = ttl)
    (opens : w.cache.Opens (CacheEntry.IsBy verdict w.now) n (Slot.fresh key)) :
    Work.Alike (World.Covers verdict ttl) (Concur Client.Matches)
      (visit (steadyBuild verdict) key (some n)) w
      (steadyBuild verdict key.identity key.scope) v := by
  have joined := opens.modify n _ (·.join w.tickets) (fun s => s.key_join w.tickets)
    fun s => s.entry_join w.tickets
  have entered : w.enter n = (.queued w.tickets,
      { w with cache := w.cache.modify n (·.join w.tickets), tickets := w.tickets + 1 }) := by
    simp only [World.enter, opens.held?_eq_none]
  have first : (w.enter n).2.mayProceed n w.tickets = true := by
    rw [entered]
    simp only [World.mayProceed, joined.slot]
    simp [Slot.mayProceed, Slot.join, Slot.fresh]
  rw [entered] at first
  -- Nobody holds a new slot, so it is the turn of whoever joins it first.
  refine .step ?_
  rw [entered]
  refine .left ?_
  rw [first]
  refine alike_proceed (s := (Slot.fresh key).join w.tickets) ?_ ?_ ?_ w.tickets
  · exact { abreast with }
  · exact limit
  · exact joined

/-- A caller that finds a client takes it, and building it would have given the same. -/
theorem alike_visit_held (covers : w.Covers verdict ttl v) (entry : CacheEntry)
    (held : w.cache.held? n = some entry) (fine : CacheEntry.IsBy verdict w.now key entry) :
    Work.Alike (World.Covers verdict ttl) (Concur Client.Matches)
      (visit (steadyBuild verdict) key (some n)) w
      (steadyBuild verdict key.identity key.scope) v := by
  obtain ⟨client, decided, same⟩ := fine.made
  have entered : w.enter n = (.hit entry.client, w) := by simp only [World.enter, held]
  refine .step (.right ?_)
  rw [entered, decided]
  exact .done (.ok _ _ same) ⟨covers.toAbreast.built, covers.ttl, covers.filled⟩

/-- A caller finds a client in the slot of its key, or a new slot. -/
theorem alike_visit (covers : w.Covers verdict ttl v) (reached : w.now + ttl ≤ clockEnd)
    (key : CacheKey) :
    Work.Alike (World.Covers verdict ttl) (Concur Client.Matches)
      (visit (steadyBuild verdict) key (w.seek key w.now).1) (w.seek key w.now).2
      (steadyBuild verdict key.identity key.scope) v := by
  have within := w.cache.outlivesClock_of_filled covers.filled key w.now
    (fun _ _ fine => fine.created) (covers.ttl.symm ▸ reached)
  unfold World.seek
  rw [within]
  rcases w.cache.slotFor_of_filled covers.filled key w.now w.wall with
    ⟨n, entry, found, held, fine⟩ | made
  · rw [found]
    exact alike_visit_held covers entry held fine
  · rw [made]
    have limit := (Cache.Change.ttl_eq _ _ (.make key)).trans covers.ttl
    exact alike_visit_new { covers.toAbreast with } limit
      (Cache.opens_makeSlot covers.filled key)

/-- A caller gets a client from the cache like one that is built anew. -/
theorem alike_acquire (covers : w.Covers verdict ttl v) (reached : w.now + ttl ≤ clockEnd)
    (identity : Identity) (scope : Scope) :
    Work.Alike (World.Covers verdict ttl) (Concur Client.Matches)
      (acquireFrom (steadyBuild verdict) identity scope) w
      (acquireFresh (steadyBuild verdict) identity scope) v := by
  unfold acquireFrom acquireFresh
  split
  · exact .done (.error _) covers
  · refine .both ?_
    rw [covers.wall]
    split
    · have evicted := covers.lose (·.evict identity) rfl (w.cache.index_evict_subset identity) rfl
      exact .left (.done (.error _) evicted)
    · exact .left (.step (alike_visit covers reached ⟨identity, scope.normalized⟩))

end Acquisition

/-! ## Sessions -/

namespace Gateway
variable {verdict : Verdict} {ttl : Nat} {w v : World Store}

/-- The gateway over the store, with a factory that decides by verdict. -/
def steady (verdict : Verdict) (callTimeout requestTimeout : Nat) : Gateway Store :=
  ⟨{ Store.backend with build := steadyBuild verdict }, callTimeout, requestTimeout⟩

/-- An errand goes alike with the cache and without. -/
theorem alike_perform (covers : w.Covers verdict ttl v) (reached : v.now + ttl ≤ clockEnd)
    (callTimeout requestTimeout : Nat) (r : Request) (e : Errand) :
    Work.Alike (World.Covers verdict ttl) (Concur Eq)
      ((steady verdict callTimeout requestTimeout).perform r e) w
      ((steady verdict callTimeout requestTimeout).performFresh r e) v := by
  rw [perform_eq]
  rw [← covers.now] at reached
  refine alike_performWith (World.companions_covers verdict ttl) _ Client.Matches ?_ r e covers
    (alike_acquire covers reached r.identity r.scope)
  intro c c' (same : c.unnumbered = c'.unnumbered)
  have scope := congrArg Client.scope same
  exact Store.callsAlike c c' scope (steadyBuild verdict)

/-- On every occasion the sessions with the cache and without give the same answer. -/
theorem attend_covers (covers : w.Covers verdict ttl v) (reached : v.now + ttl ≤ clockEnd)
    (callTimeout requestTimeout : Nat) (occasion : Occasion) :
    (attend (steady verdict callTimeout requestTimeout).perform w occasion).1 =
        (attend (steady verdict callTimeout requestTimeout).performFresh v occasion).1 ∧
      (attend (steady verdict callTimeout requestTimeout).perform w occasion).2.Covers verdict ttl
        (attend (steady verdict callTimeout requestTimeout).performFresh v occasion).2 := by
  cases occasion with
  | ask request errand =>
    obtain ⟨answers, states⟩ :=
      (alike_perform covers reached callTimeout requestTimeout request errand).run
        (World.companions_covers verdict ttl).toPaced
    refine ⟨?_, states⟩
    simp only [attend, states.halted, Concur.eq_of_rel _ _ answers]
  | pass delay =>
    refine ⟨rfl, ?_⟩
    simp only [attend, ← covers.now]
    exact covers.later _ (Nat.le_add_right _ _)
  | setWall moment =>
    exact ⟨rfl, ⟨covers.now, rfl, covers.halted, covers.backend, covers.bare⟩, covers.ttl,
      covers.filled⟩
  | evict identity =>
    have evicted := covers.lose (·.evict identity) rfl (w.cache.index_evict_subset identity) rfl
    have bare : (v.cache.evict identity).index = [] := by simp [Cache.evict, covers.bare]
    exact ⟨rfl, ⟨covers.now, covers.wall, covers.halted, covers.backend, bare⟩, evicted.ttl,
      evicted.filled⟩
  | purge =>
    have within := covers.filled.within w.now (fun _ _ fine => fine.created)
      (by rw [covers.now, covers.ttl]; exact reached)
    have purged := covers.lose (fun c => c.purge w.now w.wall) rfl
      (w.cache.index_purge_subset w.now w.wall) rfl
    have bare : (v.cache.purge v.now v.wall).index = [] := by simp [Cache.purge, covers.bare]
    simp only [attend, w.purge_of_within within, v.purge_of_within (by simp [covers.bare])]
    exact ⟨trivial, ⟨covers.now, covers.wall, covers.halted, covers.backend, bare⟩, purged.ttl,
      purged.filled⟩

/-- As long as the clock reaches the end of the time to live, the sessions with the cache and
without give the same answers. -/
theorem session_covers (covers : w.Covers verdict ttl v) (callTimeout requestTimeout : Nat)
    (occasions : List Occasion)
    (reached : ∀ early, early <+: occasions →
      (session (steady verdict callTimeout requestTimeout).performFresh v early).2.now + ttl ≤
        clockEnd) :
    (session (steady verdict callTimeout requestTimeout).perform w occasions).1 =
        (session (steady verdict callTimeout requestTimeout).performFresh v occasions).1 ∧
      (session (steady verdict callTimeout requestTimeout).perform w occasions).2.Covers verdict ttl
        (session (steady verdict callTimeout requestTimeout).performFresh v occasions).2 := by
  induction occasions generalizing w v with
  | nil => exact ⟨rfl, covers⟩
  | cons occasion rest ih =>
    obtain ⟨answer, still⟩ := attend_covers covers (reached [] List.nil_prefix) callTimeout
      requestTimeout occasion
    obtain ⟨answers, after⟩ := ih still fun early first =>
      reached (occasion :: early) ((List.prefix_cons_inj occasion).mpr first)
    refine ⟨?_, after⟩
    simp only [session, answer, answers]

/-- A session with the cache gives the same answers, and leaves the same objects and recorded calls,
as the session that builds a client for every errand, whatever the time to live and the bound of the
cache are, and whichever of the clients of one moment goes first, as long as the clock reaches the
end of the time to live. -/
theorem transparent (verdict : Verdict) (callTimeout requestTimeout ttl maxEntries : Nat)
    (order : KeyOrder) (wall : Time.Instant) (store : Store) (occasions : List Occasion)
    (reached : ∀ early, early <+: occasions →
      (session (steady verdict callTimeout requestTimeout).performFresh
        (World.start wall (Cache.empty ttl maxEntries order) store) early).2.now + ttl ≤ clockEnd) :
    let cached := session (steady verdict callTimeout requestTimeout).perform
      (World.start wall (Cache.empty ttl maxEntries order) store) occasions
    let fresh := session (steady verdict callTimeout requestTimeout).performFresh
      (World.start wall (Cache.empty ttl maxEntries order) store) occasions
    cached.1 = fresh.1 ∧ cached.2.backend.objects = fresh.2.backend.objects ∧
      cached.2.backend.calls = fresh.2.backend.calls := by
  have start : (World.start wall (Cache.empty ttl maxEntries order) store).Covers verdict ttl
      (World.start wall (Cache.empty ttl maxEntries order) store) :=
    ⟨⟨rfl, rfl, rfl, ⟨store.builds, rfl⟩, rfl⟩, rfl, Cache.filled_empty ttl maxEntries order⟩
  obtain ⟨answers, covers⟩ := session_covers start callTimeout requestTimeout occasions reached
  obtain ⟨n, same⟩ := covers.backend
  refine ⟨answers, ?_, ?_⟩ <;> rw [same]

/-- A caller who asks for an object that is not there. -/
def asksForWidget (token : String) : Occasion :=
  .ask ⟨⟨.bearer token, none⟩, ⟨none⟩, none, none⟩ (.get ⟨"example.io/v1", "Widget", none, "w"⟩)

/-- Clients that are still good, that have outlived their time, and that were evicted. -/
def comingAndGoing : List Occasion :=
  [asksForWidget "alice", .pass 4, asksForWidget "alice", asksForWidget "bob", .pass 6,
    asksForWidget "alice", .evict ⟨.bearer "bob", none⟩, asksForWidget "bob", .purge,
    asksForWidget "bob"]

theorem transparent_of_coming_and_going :
    let cached := session (steady (Store.verdict false) 5 60).perform
      (World.start ⟨0, 0⟩ (Cache.empty 10 16) Store.empty) comingAndGoing
    let fresh := session (steady (Store.verdict false) 5 60).performFresh
      (World.start ⟨0, 0⟩ (Cache.empty 10 16) Store.empty) comingAndGoing
    cached.1 = fresh.1 ∧ cached.2.backend.builds = 4 ∧ fresh.2.backend.builds = 6 := by
  have reached : ∀ early ∈ comingAndGoing.inits,
      (session (steady (Store.verdict false) 5 60).performFresh
        (World.start ⟨0, 0⟩ (Cache.empty 10 16) Store.empty) early).2.now + 10 ≤ clockEnd := by
    decide +kernel
  refine ⟨(transparent (Store.verdict false) 5 60 10 16 .asCame ⟨0, 0⟩ Store.empty comingAndGoing
    fun early first => reached early ((List.mem_inits early _).mpr first)).1, ?_, ?_⟩
  · decide +kernel
  · decide +kernel

/-- With a time to live that the clock does not reach the end of, everything ends when the client is
looked up for the second time. -/
theorem cache_shows_beyond_clock :
    (session (steady (Store.verdict false) 5 60).perform
        (World.start ⟨0, 0⟩ (Cache.empty (18446744073709551615 * 1000) 16) Store.empty)
        [asksForWidget "alice", asksForWidget "alice"]).1.map Option.isSome = [true, false] ∧
      (session (steady (Store.verdict false) 5 60).performFresh
        (World.start ⟨0, 0⟩ (Cache.empty (18446744073709551615 * 1000) 16) Store.empty)
        [asksForWidget "alice", asksForWidget "alice"]).1.map Option.isSome = [true, true] := by
  decide +kernel

end Gateway
end ClusterGraph
