import ClusterGraph.Proofs.Access.Construction

/-!
# No client that is too old

A caller only gets a client that was constructed after its first step, or one whose time to live had
not run out by then. What the caller finds is checked against the clock only when it looks up its
slot; from then on it keeps the slot, whatever becomes of the index. So all that has to be seen is
that a client that is in the slot later was there at the look-up, and not stale, or was put there
since.

A caller whose identity is blank, or has expired by its first step, is turned away: it gets no
client and starts no build.
-/
namespace ClusterGraph

/-! ## The look-up -/

/-- A slot that is found holds no client that is stale. -/
theorem Cache.created_of_slotFor (c : Cache) (key : CacheKey) (now : Nat) (wall : Time.Instant)
    (entry : CacheEntry)
    (found : (c.slotFor key now wall).1.held? (c.slotFor key now wall).2 = some entry) :
    now < entry.created + c.ttl := by
  have new (h : (c.makeSlot key).1.held? (c.makeSlot key).2 = some entry) : False := by
    rw [c.held?_makeSlot key] at h
    have bound := c.held?_lt _ entry h
    exact Nat.lt_irrefl _ bound
  unfold slotFor at found
  split at found
  · next n _ =>
    split at found
    · next s there =>
      split at found
      · exact absurd found new
      · next fresh =>
        have held : s.entry = some entry := by simpa [Cache.held?, there] using found
        simp only [Slot.isStale, held, Bool.or_eq_true, decide_eq_true_eq, not_or] at fresh
        exact Nat.lt_of_not_le fresh.1
    · exact absurd found new
  · exact absurd found new

theorem World.created_of_seek (w : World OrderBook) (key : CacheKey) (now n : Nat)
    (entry : CacheEntry) (sought : (w.seek key now).1 = some n)
    (found : (w.seek key now).2.cache.held? n = some entry) :
    now < entry.created + w.cache.ttl := by
  unfold seek at sought found
  split at sought
  · cases sought
  · next within =>
    rw [if_neg within] at found
    cases sought
    exact w.cache.created_of_slotFor key now w.wall entry found

/-! ## Callers -/

namespace Passage

/-- A caller looks up its slot no earlier than at a time, and what it finds in its slot, and what it
is given, will do. -/
structure Fresh (since : Nat) (good : CacheEntry → Prop) (w : World OrderBook) (p : Passage) :
    Prop where
  seeking : ∀ now, p = seeking now → since ≤ now
  slot : ∀ n entry, p.slot? = some n → w.cache.held? n = some entry → good entry
  client : ∀ client, p = finished (.ok client) → ∃ entry, good entry ∧ entry.client = client

theorem first_fresh (since : Nat) (good : CacheEntry → Prop) (w : World OrderBook)
    (identity : Identity) : (first identity).Fresh since good w := by
  unfold first
  split <;> exact ⟨nofun, nofun, nofun⟩

theorem seeking_of_next (key : CacheKey) (w : World OrderBook) (p : Passage) (now : Nat)
    (h : (p.next key w).1 = seeking now) : now = w.now := by
  cases p with
  | dating =>
    cases h
    rfl
  | arriving | seeking now | entering s | checking s t | waiting s t | proceeding s t
  | building s t o | collecting s t o =>
    simp only [next] at h
    split at h <;> cases h
  | _ => cases h

/-- A caller that stays where it is stays fresh, if what is put into slots will do. -/
theorem Fresh.mono (since : Nat) (good good' : CacheEntry → Prop) (w w' : World OrderBook)
    (p : Passage) (fresh : p.Fresh since good w) (kept : ∀ entry, good entry → good' entry)
    (put : ∀ n entry, w'.cache.held? n = some entry →
      w.cache.held? n = some entry ∨ good' entry) : p.Fresh since good' w' := by
  refine ⟨fresh.seeking, ?_, ?_⟩
  · intro n entry mine found
    rcases put n entry found with old | new
    · exact kept entry (fresh.slot n entry mine old)
    · exact new
  · intro client h
    obtain ⟨entry, good, same⟩ := fresh.client client h
    exact ⟨entry, kept entry good, same⟩

/-- A caller stays fresh when it takes a step, if what is not stale will do, and what it puts into
its slot itself. -/
theorem next_fresh (key : CacheKey) (w : World OrderBook) (p : Passage) (since : Nat)
    (good good' : CacheEntry → Prop) (fits : p.Fits key w) (fresh : p.Fresh since good w)
    (later : since ≤ w.now) (kept : ∀ entry, good entry → good' entry)
    (put : ∀ n entry, (p.next key w).2.cache.held? n = some entry →
      w.cache.held? n = some entry ∨ good' entry)
    (live : ∀ n entry, (p.next key w).2.cache.held? n = some entry →
      since < entry.created + w.cache.ttl → good' entry) :
    (p.next key w).1.Fresh since good' (p.next key w).2 := by
  have moved := Fresh.mono since good good' w (p.next key w).2 p fresh kept put
  refine ⟨?_, ?_, ?_⟩
  · intro now h
    rw [seeking_of_next key w p now h]
    exact later
  · intro n entry h found
    rcases slot?_next key w p n h with mine | ⟨now, rfl, sought⟩
    · exact moved.slot n entry mine found
    · have in_time := w.created_of_seek key now n entry sought found
      exact live n entry found (Nat.lt_of_le_of_lt (fresh.seeking now rfl) in_time)
  · intro client h
    rcases client_of_next key w p client h with old | ⟨n, entry, mine, found, rfl⟩
      | ⟨n, ticket, order, created, rfl, rfl⟩
    · exact moved.client client old
    · exact ⟨entry, kept entry (fresh.slot n entry mine found), rfl⟩
    · have bound := Cache.keyOf?_lt w.cache n key (fits.slot n rfl)
      have settled := Cache.held?_settle_self w.cache n ⟨key.clientOf order, created⟩ bound
      exact ⟨_, moved.slot n _ rfl settled, rfl⟩

/-! ### Callers that are turned away -/

/-- A caller that gets no client and starts no build. -/
def TurnedAway (p : Passage) : Prop := p = expelling ∨ ∃ e, p = finished (.error e)

theorem next_turnedAway (key : CacheKey) (w : World OrderBook) (p : Passage)
    (away : p.TurnedAway) :
    (p.next key w).1.TurnedAway ∧ (p.next key w).2.backend = w.backend := by
  rcases away with rfl | ⟨e, rfl⟩
  · exact ⟨Or.inr ⟨_, rfl⟩, rfl⟩
  · exact ⟨Or.inr ⟨e, rfl⟩, rfl⟩

theorem isWaiting_of_turnedAway (p : Passage) (away : p.TurnedAway) : p.isWaiting = false := by
  rcases away with rfl | ⟨e, rfl⟩ <;> rfl

/-- The first step of a caller with a blank or an expired identity turns it away. -/
theorem first_turnedAway (key : CacheKey) (w : World OrderBook)
    (unwelcome : key.identity.isBlank = true ∨ key.identity.isExpiredAt w.wall = true) :
    ((first key.identity).next key w).1.TurnedAway ∧
      ((first key.identity).next key w).2.backend = w.backend := by
  unfold first
  split
  · exact ⟨Or.inr ⟨_, rfl⟩, rfl⟩
  · next welcome =>
    have expired := unwelcome.resolve_left welcome
    refine ⟨Or.inl ?_, rfl⟩
    simp [next, expired]

theorem isWaiting_first (identity : Identity) : (first identity).isWaiting = false := by
  unfold first
  split <;> rfl

end Passage

/-! ## Runs -/

namespace Course

/-- As long as somebody else moves, a caller that does not wait stays where it is. -/
theorem visit_unmoved (c c' : Course) (m : Move) (takes : c.Takes m c') (k : Nat) (v : Visit)
    (p : Passage) (found : c.visits[k]? = some v) (place : v.place = some p)
    (busy : p.isWaiting = false) (other : m ≠ .go k) : c'.visits[k]? = some v := by
  have bound : k < c.visits.length := (List.getElem?_eq_some_iff.mp found).1
  cases takes with
  | call identity scope =>
    rw [List.getElem?_append_left bound]
    exact found
  | go j identity scope q at_j =>
    have different : j ≠ k := fun same => other (congrArg Move.go same)
    rw [List.getElem?_set_ne different]
    exact found
  | drop j identity scope q at_j waits =>
    have different : j ≠ k := by
      intro same
      subst same
      cases Option.some.inj (at_j.symm.trans found)
      cases place
      rw [busy] at waits
      cases waits
    rw [List.getElem?_set_ne different]
    exact found
  | _ => exact found

theorem visit_unmoved_run (c : Course) (moves : List Move) (k : Nat) (v : Visit) (p : Passage)
    (found : c.visits[k]? = some v) (place : v.place = some p) (busy : p.isWaiting = false)
    (others : .go k ∉ moves) : (c.run moves).visits[k]? = some v := by
  induction moves generalizing c with
  | nil => exact found
  | cons m rest ih =>
    have other : m ≠ .go k := fun same => others (same ▸ List.mem_cons_self)
    exact ih (c.step m) (c.visit_unmoved _ m (c.takes_step m) k v p found place busy other)
      fun member => others (List.mem_cons_of_mem m member)

/-- A caller that has asked and taken no step is at its first place. -/
theorem visit_of_asked (c : Course) (before idle : List Move) (identity : Identity) (scope : Scope)
    (unstarted : .go (c.run before).visits.length ∉ idle) :
    (c.run (before ++ .call identity scope :: idle)).visits[(c.run before).visits.length]? =
      some ⟨identity, scope, some (Passage.first identity)⟩ := by
  rw [run_cut]
  refine visit_unmoved_run _ idle _ _ _ ?_ rfl
    (Passage.isWaiting_first identity) unstarted
  simp [step]

/-- A caller was where it is, or it has just taken a step. -/
theorem visit_of_step (c c' : Course) (m : Move) (takes : c.Takes m c') (k : Nat)
    (bound : k < c.visits.length) (v : Visit) (p : Passage) (found : c'.visits[k]? = some v)
    (place : v.place = some p) :
    c.visits[k]? = some v ∨
      ∃ q, c.visits[k]? = some ⟨v.identity, v.scope, some q⟩ ∧ p = (q.next v.key c.world).1 ∧
        c'.world = (q.next v.key c.world).2 := by
  cases takes with
  | call identity scope =>
    rw [List.getElem?_append_left bound] at found
    exact Or.inl found
  | go j identity scope q at_j =>
    rw [List.getElem?_set] at found
    split at found
    · next same =>
      subst same
      rw [if_pos bound] at found
      cases found
      cases place
      exact Or.inr ⟨q, at_j, rfl, rfl⟩
    · exact Or.inl found
  | drop j identity scope q at_j waits =>
    rw [List.getElem?_set] at found
    split at found
    · next same =>
      rw [same, if_pos bound] at found
      cases found
      cases place
    · exact Or.inl found
  | _ => exact Or.inl found

theorem length_visits_step (c c' : Course) (m : Move) (takes : c.Takes m c') :
    c.visits.length ≤ c'.visits.length := by
  cases takes with
  | call identity scope => simp
  | go k identity scope p found => simp
  | drop k identity scope p found waits => simp
  | _ => exact Nat.le_refl _

theorem length_visits_run (c : Course) (moves : List Move) :
    c.visits.length ≤ (c.run moves).visits.length := by
  induction moves generalizing c with
  | nil => exact Nat.le_refl _
  | cons m rest ih =>
    exact Nat.le_trans (length_visits_step c _ m (c.takes_step m)) (ih (c.step m))

/-! ### What will do -/

/-- In a run an entry was put into a slot, at or after a time, or when its time to live had not yet
run out at that time. -/
def Good (c : Course) (since : Nat) (moves : List Move) (entry : CacheEntry) : Prop :=
  ∃ time, c.Puts moves entry time ∧
    (since ≤ time ∨ since < entry.created + c.world.cache.ttl)

theorem good_append (c : Course) (since : Nat) (moves : List Move) (m : Move) (entry : CacheEntry)
    (good : c.Good since moves entry) : c.Good since (moves ++ [m]) entry := by
  obtain ⟨time, put, fresh⟩ := good
  exact ⟨time, c.puts_append moves [m] entry time put, fresh⟩

/-- What is in a slot after a move was there before, or will do. -/
theorem good_of_put (c : Course) (since : Nat) (moves : List Move) (m : Move) (n : Nat)
    (entry : CacheEntry) (later : since ≤ (c.run moves).world.now)
    (found : ((c.run moves).step m).world.cache.held? n = some entry) :
    (c.run moves).world.cache.held? n = some entry ∨ c.Good since (moves ++ [m]) entry := by
  by_cases before : (c.run moves).world.cache.held? n = some entry
  · exact Or.inl before
  · have clock := Nat.le_trans later (takes_step (c.run moves) m).now_le
    rw [← run_concat] at found clock
    exact Or.inr ⟨_, ⟨moves, m, [], n, rfl, before, found, rfl⟩, Or.inl clock⟩

/-- A caller that was at its first place is fresh in every run from there. -/
theorem fresh_run (ttl maxEntries : Nat) (order : KeyOrder) (wall : Time.Instant)
    (early late : List Move) (k : Nat) (identity : Identity) (scope : Scope)
    (asked : ((start ttl maxEntries order wall).run early).visits[k]? =
      some ⟨identity, scope, some (Passage.first identity)⟩) (v : Visit) (p : Passage)
    (found : ((start ttl maxEntries order wall).run (early ++ late)).visits[k]? = some v)
    (place : v.place = some p) :
    p.Fresh ((start ttl maxEntries order wall).run early).world.now
      ((start ttl maxEntries order wall).Good
        ((start ttl maxEntries order wall).run early).world.now (early ++ late))
      ((start ttl maxEntries order wall).run (early ++ late)).world := by
  induction late using List.reverseRecOn generalizing v p with
  | nil =>
    rw [List.append_nil] at found ⊢
    cases Option.some.inj (asked.symm.trans found)
    cases place
    exact Passage.first_fresh _ _ _ identity
  | append_singleton late m ih =>
    rw [← List.append_assoc] at found ⊢
    rw [run_concat] at found ⊢
    have later : ((start ttl maxEntries order wall).run early).world.now ≤
        ((start ttl maxEntries order wall).run (early ++ late)).world.now := by
      rw [run_append]
      exact now_run _ late
    have kept := (start ttl maxEntries order wall).good_append
      ((start ttl maxEntries order wall).run early).world.now (early ++ late) m
    have put (n : Nat) (entry : CacheEntry) :=
      (start ttl maxEntries order wall).good_of_put _ (early ++ late) m n entry later
    have bound : k < ((start ttl maxEntries order wall).run (early ++ late)).visits.length := by
      rw [run_append]
      exact Nat.lt_of_lt_of_le (List.getElem?_eq_some_iff.mp asked).1 (length_visits_run _ late)
    rcases visit_of_step _ _ m (takes_step _ m) k bound v p found place with
      same | ⟨q, before, rfl, world⟩
    · exact Passage.Fresh.mono _ _ _ _ _ p (ih v p same place) kept put
    · rw [world] at put ⊢
      have sound := sound_run _ (early ++ late) (sound_start ttl maxEntries order wall)
      have fits : q.Fits v.key ((start ttl maxEntries order wall).run (early ++ late)).world :=
        sound.visits _ (List.mem_of_getElem? before) q rfl
      refine Passage.next_fresh v.key _ q _ _ _ fits (ih _ q before rfl) later kept put ?_
      intro n entry held fresh
      -- The slots were empty at the start, so whatever is in one was put there.
      rw [ttl_run] at fresh
      rw [← world, ← run_concat] at held
      rcases puts_of_held _ _ n entry held with always | ⟨time, was_put⟩
      · cases always
      · exact ⟨time, was_put, Or.inr fresh⟩

/-- A caller that is turned away stays so, and the builds stay as they are. -/
theorem turnedAway_run (c : Course) (moves : List Move) (k : Nat) (v : Visit) (p : Passage)
    (found : c.visits[k]? = some v) (place : v.place = some p) (away : p.TurnedAway) :
    ∃ q, (c.run moves).visits[k]? = some ⟨v.identity, v.scope, some q⟩ ∧ q.TurnedAway := by
  induction moves generalizing c v p with
  | nil =>
    refine ⟨p, ?_, away⟩
    rw [← place]
    exact found
  | cons m rest ih =>
    by_cases mine : m = .go k
    · subst mine
      have bound : k < c.visits.length := (List.getElem?_eq_some_iff.mp found).1
      obtain ⟨identity, scope, place'⟩ := v
      cases place
      have next := (Passage.next_turnedAway (keyFor identity scope) c.world p away).1
      refine ih (c.step (.go k))
        ⟨identity, scope, some (p.next (keyFor identity scope) c.world).1⟩ _ ?_ rfl next
      simp only [step, found]
      exact List.getElem?_set_self bound
    · exact ih (c.step m) v p
        (c.visit_unmoved _ m (c.takes_step m) k v p found place
          (Passage.isWaiting_of_turnedAway p away) mine) place away

/-- What is left of a caller that is turned away: no client, and no step that starts a build. -/
theorem backend_of_turnedAway (c : Course) (k : Nat) (v : Visit) (p : Passage)
    (found : c.visits[k]? = some v) (place : v.place = some p) (away : p.TurnedAway) :
    (c.step (.go k)).world.backend = c.world.backend := by
  obtain ⟨identity, scope, place'⟩ := v
  cases place
  simp only [step, found]
  exact (Passage.next_turnedAway (keyFor identity scope) c.world p away).2

/-- The first step of a caller whose identity is blank or has expired starts no build, and it is
turned away from then on. -/
theorem turnedAway_of_unwelcome (c : Course) (late : List Move) (k : Nat) (identity : Identity)
    (scope : Scope) (first : c.visits[k]? = some ⟨identity, scope, some (Passage.first identity)⟩)
    (unwelcome : identity.isBlank = true ∨ identity.isExpiredAt c.world.wall = true) :
    (c.step (.go k)).world.backend = c.world.backend ∧
      ∃ q, ((c.step (.go k)).run late).visits[k]? = some ⟨identity, scope, some q⟩ ∧
        q.TurnedAway := by
  have bound := (List.getElem?_eq_some_iff.mp first).1
  obtain ⟨away, same⟩ := Passage.first_turnedAway (keyFor identity scope) c.world unwelcome
  have stepped : (c.step (.go k)).visits[k]? = some ⟨identity, scope,
      some ((Passage.first identity).next (keyFor identity scope) c.world).1⟩ := by
    simp only [step, first]
    exact List.getElem?_set_self bound
  refine ⟨?_, turnedAway_run _ late k _ _ stepped rfl away⟩
  simp only [step, first]
  exact same

end Course

namespace Traffic

/-- In a run a client was put into a slot under a stamp, and then the clock showed a time. -/
def Constructs (t : Traffic) (moves : List Move) (client : Client) (stamp time : Nat) : Prop :=
  ∃ before m after n, moves = before ++ m :: after ∧
    (t.run before).world.cache.held? n ≠ some ⟨client, stamp⟩ ∧
      (t.run (before ++ [m])).world.cache.held? n = some ⟨client, stamp⟩ ∧
        (t.run (before ++ [m])).world.now = time

theorem constructs_start (ttl maxEntries : Nat) (order : KeyOrder) (wall : Time.Instant)
    (moves : List Move) (client : Client) (stamp time : Nat) :
    (start ttl maxEntries order wall).Constructs moves client stamp time ↔
      (Course.start ttl maxEntries order wall).Puts moves ⟨client, stamp⟩ time := by
  unfold Constructs Course.Puts
  simp only [run_start]
  rfl

/-- A caller asks for the client of an identity within a scope in the course of some moves, and has
taken no step by their end. -/
def HasAsked (t : Traffic) (moves : List Move) (k : Nat) (identity : Identity) (scope : Scope) :
    Prop :=
  ∃ before idle, moves = before ++ .call identity scope :: idle ∧
    (t.run before).callers.length = k ∧ .go k ∉ idle

theorem visit_of_hasAsked (ttl maxEntries : Nat) (order : KeyOrder) (wall : Time.Instant)
    (moves : List Move) (k : Nat) (identity : Identity) (scope : Scope)
    (asked : (start ttl maxEntries order wall).HasAsked moves k identity scope) :
    ((Course.start ttl maxEntries order wall).run moves).visits[k]? =
      some ⟨identity, scope, some (Passage.first identity)⟩ := by
  obtain ⟨before, idle, rfl, rfl, unstarted⟩ := asked
  rw [run_start] at unstarted ⊢
  simp only [Course.traffic, List.length_map] at unstarted ⊢
  exact Course.visit_of_asked _ before idle identity scope unstarted

/-- In every run, a caller that takes its first step at a time gets no client but one that was
constructed from that time on, or one whose time to live had not run out by then; every client is
constructed only once. If the identity of the caller is blank, or has expired when it takes its
first step, it gets no client at all, and neither this nor any other step of it starts a build. -/
theorem client_fresh (ttl maxEntries : Nat) (order : KeyOrder) (wall : Time.Instant)
    (early late : List Move) (k : Nat) (identity : Identity) (scope : Scope)
    (asked : (start ttl maxEntries order wall).HasAsked early k identity scope) :
    (∀ caller client,
      ((start ttl maxEntries order wall).run (early ++ .go k :: late)).callers[k]? = some caller →
      caller.result? = some (.ok client) →
      ∃ stamp time,
        (start ttl maxEntries order wall).Constructs (early ++ .go k :: late) client stamp time ∧
          (∀ stamp' time',
            (start ttl maxEntries order wall).Constructs (early ++ .go k :: late) client stamp'
                time' → stamp' = stamp ∧ time' = time) ∧
          stamp ≤ time ∧
            (((start ttl maxEntries order wall).run early).world.now ≤ time ∨
              ((start ttl maxEntries order wall).run early).world.now < stamp + ttl)) ∧
    (identity.isBlank = true ∨
        identity.isExpiredAt ((start ttl maxEntries order wall).run early).world.wall = true →
      (∀ caller client,
        ((start ttl maxEntries order wall).run (early ++ .go k :: late)).callers[k]? = some caller →
        caller.result? ≠ some (.ok client)) ∧
      ((start ttl maxEntries order wall).run (early ++ [.go k])).world.backend =
        ((start ttl maxEntries order wall).run early).world.backend ∧
      ((start ttl maxEntries order wall).run (early ++ .go k :: late ++ [.go k])).world.backend =
        ((start ttl maxEntries order wall).run (early ++ .go k :: late)).world.backend) := by
  have first := visit_of_hasAsked ttl maxEntries order wall early k identity scope asked
  simp only [constructs_start, run_start]
  refine ⟨?_, ?_⟩
  · intro caller client found result
    simp only [Course.traffic, List.getElem?_map] at found
    obtain ⟨v, at_k, rfl⟩ := Option.map_eq_some_iff.mp found
    have place := Visit.place_of_result? v (.ok client) result
    have fresh := Course.fresh_run ttl maxEntries order wall early (.go k :: late) k identity scope
      first v _ at_k place
    obtain ⟨⟨_, stamp⟩, ⟨time, put, good⟩, rfl⟩ := fresh.client client rfl
    have stamped := Course.created_le_of_puts ttl maxEntries order wall _ _ time put
    refine ⟨stamp, time, put, ?_, stamped, good⟩
    intro stamp' time' put'
    obtain ⟨same, at_once⟩ :=
      Course.puts_once ttl maxEntries order wall _ _ _ time' time put' put rfl
    exact ⟨congrArg CacheEntry.created same, at_once⟩
  · intro unwelcome
    obtain ⟨same, q, at_end, still⟩ :=
      Course.turnedAway_of_unwelcome _ late k identity scope first unwelcome
    rw [← Course.run_cut] at at_end
    refine ⟨?_, ?_, ?_⟩
    · intro caller client found result
      simp only [Course.traffic, List.getElem?_map] at found
      obtain ⟨v, at_k, rfl⟩ := Option.map_eq_some_iff.mp found
      have place := Visit.place_of_result? v (.ok client) result
      cases Option.some.inj (at_end.symm.trans at_k)
      cases place
      rcases still with here | ⟨e, here⟩ <;> cases here
    · rw [Course.run_concat]
      exact same
    · rw [Course.run_concat]
      exact Course.backend_of_turnedAway _ k _ q at_end rfl still

/-- A caller comes while a build for its key is under way, and takes no step for a while. -/
def comesLater : List Move :=
  .call ⟨.bearer "alice", none⟩ ⟨none⟩ :: List.replicate 7 (.go 0) ++
    .call ⟨.bearer "alice", none⟩ ⟨none⟩ :: [.pass 3]

/-- The build succeeds, and the clock moves between the stamp and the moment at which the client is
put into its slot. -/
def servedLater : List Move :=
  List.flatten
    [List.replicate 6 (.go 1), [.pass 5, .succeed 0], List.replicate 3 (.go 0), [.pass 7],
      [.go 0, .go 1, .go 1]]

/-- A caller whose identity expires before it takes a step. -/
def comesTooLate : List Move :=
  .call ⟨.bearer "bob", some ⟨5, 0⟩⟩ ⟨none⟩ :: [.setWall ⟨5, 0⟩]

theorem client_fresh_of_shared_build :
    (∃ stamp time,
      (start 10 16 .asCame ⟨0, 0⟩).Constructs (comesLater ++ .go 1 :: servedLater)
        ⟨0, ⟨.bearer "alice", none⟩, ⟨none⟩⟩ stamp time ∧
          (∀ stamp' time',
            (start 10 16 .asCame ⟨0, 0⟩).Constructs (comesLater ++ .go 1 :: servedLater)
            ⟨0, ⟨.bearer "alice", none⟩, ⟨none⟩⟩ stamp' time' → stamp' = stamp ∧ time' = time) ∧
          stamp ≤ time ∧ (3 ≤ time ∨ 3 < stamp + 10)) ∧
      ((start 10 16 .asCame ⟨0, 0⟩).run (comesTooLate ++ [.go 0])).world.backend = [] := by
  have asked : (start 10 16 .asCame ⟨0, 0⟩).HasAsked comesLater 1 ⟨.bearer "alice", none⟩ ⟨none⟩ :=
    ⟨_, [.pass 3], rfl, rfl, by decide⟩
  have asked_late : (start 10 16 .asCame ⟨0, 0⟩).HasAsked comesTooLate 0
      ⟨.bearer "bob", some ⟨5, 0⟩⟩ ⟨none⟩ :=
    ⟨[], [.setWall ⟨5, 0⟩], rfl, rfl, by decide⟩
  refine ⟨?_, ?_⟩
  · exact (client_fresh 10 16 .asCame ⟨0, 0⟩ comesLater servedLater 1 _ _ asked).1
      ⟨⟨.bearer "alice", none⟩, ⟨none⟩, some (.done (.ok ⟨0, ⟨.bearer "alice", none⟩, ⟨none⟩⟩))⟩ _
      rfl rfl
  · exact ((client_fresh 10 16 .asCame ⟨0, 0⟩ comesTooLate [] 0 _ _ asked_late).2 (Or.inr rfl)).2.1

end Traffic
end ClusterGraph
