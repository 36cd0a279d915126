import ClusterGraph.Proofs.Access.Shown

/-!
# Caches that follow a ledger

If every caller is done before the next one comes, the current slots of the cache show the entries
of its ledger, in order. Whatever the callers are, whether builds succeed, and however long they
take, the cache gives what the ledger gives, builds as many clients and holds the same ones, within
its bound (`Ledger.followed`). Where clients were built at the same time, it is up to the order of
the keys which of them makes room, and this is so for every order.

The clock has to reach the end of the time to live: where it does not, the ledger still gives its
client, and the cache gives nothing (`Ledger.not_followed_beyond_clock`).
-/
namespace ClusterGraph

/-! ## One caller alone -/

section Alone
variable {β : Type} {build : Factory β} {w : World β} {identity : Identity} {scope : Scope}
  (visible : identity.isBlank = false) (lasts : identity.isExpiredAt w.wall = false)
  (within : w.cache.outlivesClock (keyFor identity scope) = false)
include visible lasts within

/-- A caller that is let in visits the slot of its key. -/
theorem run_acquireFrom :
    (acquireFrom build identity scope).run w =
      (visit build (keyFor identity scope)
          (some (w.cache.slotFor (keyFor identity scope) w.now w.wall).2)).run
        { w with cache := (w.cache.slotFor (keyFor identity scope) w.now w.wall).1 } := by
  have sought : w.seek (keyFor identity scope) w.now =
      (some (w.cache.slotFor (keyFor identity scope) w.now w.wall).2,
        { w with cache := (w.cache.slotFor (keyFor identity scope) w.now w.wall).1 }) := by
    unfold World.seek
    rw [if_neg (by simp [within])]
  unfold acquireFrom letIn
  rw [if_neg (by simp [visible])]
  simp only [Work.look, Work.run, id, lasts, Bool.false_eq_true, if_false]
  change ((Work.step (World.seek (keyFor identity scope) w.now)).bind _).run w = _
  simp only [Work.step, Work.bind, Work.run, sought]
  rfl

/-- A caller that finds a client takes it. -/
theorem run_acquireFrom_of_held {n : Nat} {entry : CacheEntry}
    (found : w.cache.slotFor (keyFor identity scope) w.now w.wall = (w.cache, n))
    (held : w.cache.held? n = some entry) :
    (acquireFrom build identity scope).run w = (some (.ok entry.client), w) := by
  rw [run_acquireFrom visible lasts within, found]
  simp only [visit, Work.step, Work.bind, Work.run, World.enter, held, awaitTurn]

/-- A caller for whom a slot is made is the one to build its client. -/
theorem run_acquireFrom_of_made
    (made : w.cache.slotFor (keyFor identity scope) w.now w.wall =
      w.cache.makeSlot (keyFor identity scope)) :
    (acquireFrom build identity scope).run w =
      ((build identity scope.normalized).bind
          (conclude (keyFor identity scope) w.cache.slots.length w.tickets)).run
        { w with
          cache := (w.cache.makeSlot (keyFor identity scope)).1.modify w.cache.slots.length
            (·.join w.tickets)
          tickets := w.tickets + 1 } := by
  have number : (w.cache.makeSlot (keyFor identity scope)).2 = w.cache.slots.length := rfl
  have slot : (w.cache.makeSlot (keyFor identity scope)).1.slots[w.cache.slots.length]? =
      some (Slot.fresh (keyFor identity scope)) := by simp
  rw [run_acquireFrom visible lasts within, made, number]
  generalize (w.cache.makeSlot (keyFor identity scope)).1 = c at slot ⊢
  generalize w.cache.slots.length = n at slot ⊢
  have empty : c.held? n = none := by simp [Cache.held?, slot, Slot.fresh]
  have turn : World.mayProceed n w.tickets
      { w with cache := c.modify n (·.join w.tickets), tickets := w.tickets + 1 } = true := by
    simp [World.mayProceed, Cache.modify, slot, Slot.fresh, Slot.join, Slot.mayProceed]
  have still : (c.modify n (·.join w.tickets)).held? n = none := by rw [Cache.held?_join, empty]
  -- It joins a slot that nobody holds, so its turn has come at once.
  simp only [visit, Work.step, Work.bind, Work.run, World.enter, empty, awaitTurn, Work.look, id,
    turn, if_true, proceed, still, buildInto]
  rw [Work.run_bind, Work.run_bind, Work.run_onAbandon]
  rfl

end Alone

/-! ## Caches that show a ledger -/

/-- The current slots show the entries of the ledger, in order. -/
structure World.Mirrors (w : World Nat) (l : Ledger) : Prop where
  ttl : w.cache.ttl = l.ttl
  maxEntries : w.cache.maxEntries = l.maxEntries
  order : w.cache.order = l.order
  now : w.now = l.now
  builds : w.backend = l.builds
  slots : w.cache.slots.length = l.builds
  shown : List.Forall₂ w.cache.Shows w.cache.index l.entries

namespace World.Mirrors
variable {w : World Nat} {l : Ledger} (mirrors : w.Mirrors l)
include mirrors

/-- The keys of the current slots are those of the ledger. -/
theorem nodup (sound : l.Sound) : (w.cache.index.map Prod.fst).Nodup :=
  Cache.keys_of_shows mirrors.shown ▸ sound.distinct

/-- The clock reaches the end of every client. -/
theorem within (sound : l.Sound) (reached : l.now + l.ttl ≤ clockEnd) (e : CacheKey × Nat)
    (current : e ∈ w.cache.index) (entry : CacheEntry) (held : w.cache.held? e.2 = some entry) :
    entry.created + w.cache.ttl ≤ clockEnd := by
  have listed : (e.1, some entry) ∈ l.entries.map fun x => (x.1, some x.2) := by
    rw [← Cache.held_of_shows mirrors.shown, ← held]
    exact List.mem_map_of_mem (f := fun e => (e.1, w.cache.held? e.2)) current
  obtain ⟨x, member, same⟩ := List.mem_map.mp listed
  obtain rfl : x.2 = entry := by simpa using congrArg Prod.snd same
  have before := sound.past x member
  rw [mirrors.ttl]
  omega

theorem outlivesClock_eq_false (sound : l.Sound) (reached : l.now + l.ttl ≤ clockEnd)
    (key : CacheKey) : w.cache.outlivesClock key = false :=
  Cache.outlivesClock_eq_false fun n entry found held =>
    mirrors.within sound reached (key, n) (w.cache.mem_index_of_find? key n found) entry held

/-- A client that the ledger gives is the one that is found. -/
theorem slotFor_of_live {key : CacheKey} {x : CacheKey × CacheEntry}
    (live : l.live? key = some x) (lasts : key.identity.isExpiredAt w.wall = false) :
    ∃ n, w.cache.slotFor key w.now w.wall = (w.cache, n) ∧ w.cache.held? n = some x.2 := by
  obtain ⟨listed, fresh⟩ := Option.filter_eq_some_iff.mp live
  rcases Cache.find?_of_shows mirrors.shown key with ⟨-, none⟩ | ⟨e, y, found, same, shows_⟩
  · rw [listed] at none
    cases none
  · obtain rfl : x = y := Option.some.inj (listed.symm.trans same)
    obtain ⟨-, s, there, mine, held⟩ := shows_
    have asked : x.1 = key := by simpa using List.find?_some listed
    have notStale : s.isStale w.cache.ttl w.now w.wall = false := by
      simp only [decide_eq_true_eq] at fresh
      simp only [Slot.isStale, held, mine, asked, lasts, mirrors.ttl, mirrors.now, Bool.or_false,
        decide_eq_false_iff_not]
      omega
    refine ⟨e.2, ?_, by simp [Cache.held?, there, held]⟩
    simp [Cache.slotFor, Cache.find?, found, there, notStale]

/-- Where the ledger gives no client, a slot is made. -/
theorem slotFor_of_not_live {key : CacheKey} (gone : l.live? key = none) :
    w.cache.slotFor key w.now w.wall = w.cache.makeSlot key := by
  rcases Cache.find?_of_shows mirrors.shown key with ⟨none, -⟩ | ⟨e, x, found, listed, shows_⟩
  · simp [Cache.slotFor, Cache.find?, none]
  · obtain ⟨-, s, there, -, held⟩ := shows_
    have stale : s.isStale w.cache.ttl w.now w.wall = true := by
      simp only [Ledger.live?, listed, Option.filter_eq_none_iff] at gone
      have late := gone x rfl
      simp only [decide_eq_true_eq, Nat.not_lt] at late
      simp only [Slot.isStale, held, mirrors.ttl, mirrors.now, Bool.or_eq_true, decide_eq_true_eq]
      exact .inl late
    simp [Cache.slotFor, Cache.find?, found, there, stale]

/-- The slots that stay when one is made show what the ledger leaves when there is room. -/
theorem makeSlot (sound : l.Sound) (key : CacheKey) :
    ∃ olds, (w.cache.makeSlot key).1.index = olds ++ [(key, w.cache.slots.length)] ∧
      List.Forall₂ (w.cache.makeSlot key).1.Shows olds (l.others key) := by
  have shown : List.Forall₂ w.cache.Shows (w.cache.index.filter fun e => e.1 ≠ key)
      (l.entries.filter fun x => x.1 ≠ key) := Cache.shows_filter mirrors.shown (· ≠ key)
  have opened : List.Forall₂ (w.cache.withSlot key).Shows (w.cache.index.filter fun e => e.1 ≠ key)
      (l.entries.filter fun x => x.1 ≠ key) :=
    shown.imp fun _ _ shows_ => shows_.of_append rfl
  have distinct : ((w.cache.withSlot key).index.map Prod.fst).Nodup := by
    refine Ledger.nodup_keys_concat _ ?_ fun e member => ?_
    · exact (mirrors.nodup sound).sublist (List.filter_sublist.map Prod.fst)
    · simpa using (List.mem_filter.mp member).2
  obtain ⟨stay, index, stays⟩ := Cache.index_enforceBound_of_shows key w.cache.slots.length
    (w.cache.withSlot key).size (w.cache.withSlot key) _ _ rfl distinct opened
    (sound.inOrder.sublist List.filter_sublist) (Nat.le_refl _)
  refine ⟨stay, index, ?_⟩
  have number : (w.cache.withSlot key).slots.length = l.builds + 1 := by
    simp [Cache.withSlot, mirrors.slots]
  have cut : l.others key = Ledger.cut ((w.cache.withSlot key).order (l.builds + 1))
      ((w.cache.index.filter fun e => e.1 ≠ key).length + 1 - max w.cache.maxEntries 1)
      (l.entries.filter fun x => x.1 ≠ key) := by
    rw [Ledger.others, ← shown.length_eq, ← mirrors.maxEntries, ← mirrors.order]
    rfl
  rw [cut, ← number]
  exact stays.imp fun _ _ shows_ => ⟨shows_.1, by simpa [Cache.withSlot] using shows_.2⟩

end World.Mirrors

namespace World.Mirrors
variable {w : World Nat} {l : Ledger} (mirrors : w.Mirrors l) (sound : l.Sound)
include mirrors sound

/-- The caller for whom a slot is made joins it at the end of those that stay. -/
theorem join (key : CacheKey) (ticket : Nat) :
    let c := (w.cache.makeSlot key).1.modify w.cache.slots.length (·.join ticket)
    ∃ olds, c.index = olds ++ [(key, w.cache.slots.length)] ∧
      List.Forall₂ c.Shows olds (l.others key) ∧
      c.slots[w.cache.slots.length]? = some ⟨key, none, some ticket, []⟩ := by
  obtain ⟨olds, index, shown⟩ := mirrors.makeSlot sound key
  have empty : (w.cache.makeSlot key).1.held? w.cache.slots.length = none := by
    simp [Cache.held?, Slot.fresh]
  refine ⟨olds, index, shown.imp fun e x shows_ => shows_.modify _ empty, ?_⟩
  simp [Cache.modify, Slot.fresh, Slot.join]

/-- A caller gets what the ledger gives. -/
theorem get (reached : l.now + l.ttl ≤ clockEnd) (identity : Identity) (scope : Scope)
    (trial : Trial) (visible : identity.isBlank = false)
    (lasts : identity.isExpiredAt w.wall = false) :
    ∃ w', (acquireFrom trial.build identity scope).run w =
        (some (l.get (keyFor identity scope) trial).1, w') ∧
      w'.Mirrors (l.get (keyFor identity scope) trial).2 ∧ w'.wall = w.wall := by
  have within := mirrors.outlivesClock_eq_false sound reached (keyFor identity scope)
  unfold Ledger.get
  cases live : l.live? (keyFor identity scope) with
  | some x =>
    obtain ⟨n, found, held⟩ := mirrors.slotFor_of_live live lasts
    exact ⟨w, run_acquireFrom_of_held visible lasts within found held, mirrors, rfl⟩
  | none =>
    have made := mirrors.slotFor_of_not_live live
    have change := Cache.Change.make (c := w.cache) (keyFor identity scope)
    have ttl := change.ttl_eq.trans mirrors.ttl
    have maxEntries := change.maxEntries_eq.trans mirrors.maxEntries
    have order := change.order_eq.trans mirrors.order
    have later : w.now + trial.takes = l.now + trial.takes := congrArg (· + _) mirrors.now
    have another : w.backend + 1 = l.builds + 1 := congrArg (· + 1) mirrors.builds
    have client : (⟨w.backend, identity, scope.normalized⟩ : Client) =
        (keyFor identity scope).clientOf l.builds := by rw [mirrors.builds]; rfl
    rw [run_acquireFrom_of_made visible lasts within made,
      Work.run_bind_of_some (Trial.run_build trial identity scope.normalized _)]
    dsimp only
    rw [client]
    obtain ⟨olds, index, shown, slot⟩ := mirrors.join sound (keyFor identity scope) w.tickets
    cases built : trial.result ((keyFor identity scope).clientOf l.builds) with
    | ok c =>
      refine ⟨_, rfl, ⟨ttl, maxEntries, order, later, another, ?_, ?_⟩, rfl⟩
      · simp [World.settleSlot, World.mapCache, mirrors.slots]
      · have settled := Cache.shows_settle index shown slot rfl rfl ⟨c, l.now + trial.takes⟩
        rw [← mirrors.now] at settled ⊢
        exact settled
    | error e =>
      have swept := Cache.change_sweep
        (((w.cache.makeSlot (keyFor identity scope)).1.modify w.cache.slots.length
          (·.join w.tickets)).modify w.cache.slots.length (·.leave w.tickets))
        (keyFor identity scope) w.cache.slots.length
      refine ⟨_, rfl, ⟨swept.ttl_eq.trans ttl, swept.maxEntries_eq.trans maxEntries,
        swept.order_eq.trans order, later, another, ?_, ?_⟩, rfl⟩
      · simp [World.leaveSlot, World.mapCache, mirrors.slots]
      · rw [List.append_nil]
        exact Cache.shows_sweep index shown slot rfl (fun _ => Ledger.ne_of_mem_others) w.tickets

end World.Mirrors

/-! ## One use after another -/

def Use.wallFrom (wall : Time.Instant) : Use → Time.Instant
  | .setWall moment => moment
  | _ => wall

/-- An identity does not expire at any time of day at which the cache is used. -/
structure Identity.Lasts (identity : Identity) (wall : Time.Instant) (us : List Use) : Prop where
  now : identity.isExpiredAt wall = false
  later : ∀ moment, Use.setWall moment ∈ us → identity.isExpiredAt moment = false

theorem Identity.Lasts.tail {identity : Identity} {wall : Time.Instant} {u : Use} {us : List Use}
    (lasts : identity.Lasts wall (u :: us)) : identity.Lasts (u.wallFrom wall) us := by
  refine ⟨?_, fun moment member => lasts.later moment (List.mem_cons_of_mem u member)⟩
  cases u with
  | setWall moment => exact lasts.later moment List.mem_cons_self
  | _ => exact lasts.now

namespace World.Mirrors
variable {w : World Nat} {l : Ledger}

/-- If slots go exactly where the entries go that they show, as many go, and the rest is shown. -/
theorem keep (mirrors : w.Mirrors l) (stays : CacheKey × Nat → Bool)
    (stays' : CacheKey × CacheEntry → Bool)
    (same : ∀ e ∈ w.cache.index, ∀ x, w.cache.Shows e x → stays e = stays' x) :
    w.cache.size - (w.cache.index.filter stays).length =
        l.entries.countP (fun x => !stays' x) ∧
      List.Forall₂ w.cache.Shows (w.cache.index.filter stays) (l.entries.filter stays') := by
  have known := (List.forall₂_and_left w.cache.index l.entries).mpr ⟨same, mirrors.shown⟩
  have left := List.rel_filter (p := stays) (q := stays') (fun e x both => by
    simp [both.1 x both.2]) known
  refine ⟨?_, left.imp fun _ _ both => both.2⟩
  have count := l.entries.length_eq_countP_add_countP stays'
  have gone : l.entries.countP (fun x => !stays' x) =
      l.entries.countP (fun x => decide ¬stays' x = true) := by simp
  rw [left.length_eq, ← List.countP_eq_length_filter, Cache.size, mirrors.shown.length_eq, gone]
  omega

/-- If no identity has expired, a purge takes the clients whose time to live is over. -/
theorem purge (mirrors : w.Mirrors l)
    (fresh : ∀ x ∈ l.entries, x.1.identity.isExpiredAt w.wall = false) :
    w.cache.size - (w.cache.purge w.now w.wall).size =
        l.entries.countP (fun x => !decide (l.now < x.2.created + l.ttl)) ∧
      List.Forall₂ w.cache.Shows (w.cache.purge w.now w.wall).index
        (l.entries.filter fun x => l.now < x.2.created + l.ttl) := by
  unfold Cache.size
  rw [Cache.index_purge]
  refine mirrors.keep _ (fun x => l.now < x.2.created + l.ttl) ?_
  rintro e current x ⟨key, s, there, mine, held⟩
  have listed : x.1 ∈ l.entries.map Prod.fst := by
    rw [← Cache.keys_of_shows mirrors.shown, ← key]
    exact List.mem_map_of_mem current
  obtain ⟨x', member, asked⟩ := List.mem_map.mp listed
  have lasts := fresh x' member
  rw [asked] at lasts
  rw [Bool.eq_iff_iff]
  simp [there, Slot.isStale, held, mine, lasts, mirrors.ttl, mirrors.now]

/-- One use of the cache does what the ledger says. -/
theorem use (mirrors : w.Mirrors l) (sound : l.Sound) (reached : l.now + l.ttl ≤ clockEnd)
    (fresh : ∀ x ∈ l.entries, x.1.identity.isExpiredAt w.wall = false) (u : Use)
    (welcome : ∀ identity scope trial, u = .get identity scope trial →
      identity.isBlank = false ∧ identity.isExpiredAt w.wall = false) :
    (w.use u).1 = some (l.use u).1 ∧ (w.use u).2.Mirrors (l.use u).2 ∧
      (w.use u).2.wall = u.wallFrom w.wall := by
  cases u with
  | get identity scope trial =>
    obtain ⟨visible, lasts⟩ := welcome identity scope trial rfl
    obtain ⟨w', run, still, wall⟩ := mirrors.get sound reached identity scope trial visible lasts
    simp only [World.use, run, Ledger.use]
    exact ⟨rfl, still, wall⟩
  | evict identity =>
    obtain ⟨count, shown⟩ := mirrors.keep (fun e => e.1.identity ≠ identity)
      (fun x => x.1.identity ≠ identity) fun e _ x shows_ => by rw [shows_.1]
    exact ⟨congrArg (some ∘ Use.Outcome.removed) count, { mirrors with shown := shown }, rfl⟩
  | purge =>
    obtain ⟨count, shown⟩ := mirrors.purge fresh
    have purged := w.purge_of_within (mirrors.within sound reached)
    simp only [World.use, purged, Option.map_some]
    exact ⟨congrArg (some ∘ Use.Outcome.removed) count, { mirrors with shown := shown }, rfl⟩
  | pass delay =>
    exact ⟨rfl, { mirrors with now := congrArg (· + delay) mirrors.now }, rfl⟩
  | setWall moment => exact ⟨rfl, { mirrors with }, rfl⟩

/-- One use after another does what the ledger says. -/
theorem uses (mirrors : w.Mirrors l) (sound : l.Sound) (us : List Use)
    (reached : (l.uses us).2.now + l.ttl ≤ clockEnd)
    (lasts : ∀ x ∈ l.entries, x.1.identity.Lasts w.wall us)
    (welcome : ∀ identity scope trial, Use.get identity scope trial ∈ us →
      identity.isBlank = false ∧ identity.Lasts w.wall us) :
    (w.uses us).1 = (l.uses us).1.map some ∧ (w.uses us).2.Mirrors (l.uses us).2 ∧
      (l.uses us).2.Sound := by
  induction us generalizing w l with
  | nil => exact ⟨rfl, mirrors, sound⟩
  | cons u rest ih =>
    have early := l.now_le_uses (u :: rest)
    obtain ⟨outcome, still, wall⟩ := mirrors.use sound (by omega) (fun x member =>
      (lasts x member).now) u fun identity scope trial here => by
        obtain ⟨visible, long⟩ := welcome identity scope trial (here ▸ List.mem_cons_self)
        exact ⟨visible, long.now⟩
    have stillLasts : ∀ x ∈ (l.use u).2.entries, x.1.identity.Lasts (w.use u).2.wall rest := by
      intro x member
      rw [wall]
      rcases Ledger.mem_entries_use member with old | ⟨identity, scope, trial, rfl, rfl⟩
      · exact (lasts x old).tail
      · exact (welcome _ scope trial List.mem_cons_self).2.tail
    have stillWelcome : ∀ identity scope trial, Use.get identity scope trial ∈ rest →
        identity.isBlank = false ∧ identity.Lasts (w.use u).2.wall rest := by
      intro identity scope trial member
      rw [wall]
      obtain ⟨visible, long⟩ := welcome identity scope trial (List.mem_cons_of_mem u member)
      exact ⟨visible, long.tail⟩
    obtain ⟨outcomes, last, inOrder⟩ := ih still (sound.use u)
      (by rw [(l.settings_use u).1]; exact reached) stillLasts stillWelcome
    refine ⟨?_, last, inOrder⟩
    simp only [World.uses, Ledger.uses, outcome, outcomes, List.map_cons]

end World.Mirrors

namespace Ledger

/-- If no identity that asks is blank, or expired at any time of the run, the cache gives what the
ledger gives, builds as many clients, holds the same ones for the same keys in the same order, and
never more of them than its bound, as long as the clock reaches the end of the time to live. So it
is whichever goes first of the clients that were built at the same time. -/
theorem followed (ttl maxEntries : Nat) (order : KeyOrder) (wall : Time.Instant) (us : List Use)
    (welcome : ∀ identity scope trial, Use.get identity scope trial ∈ us →
      identity.isBlank = false ∧ identity.Lasts wall us)
    (reached : ((empty ttl maxEntries order).uses us).2.now + ttl ≤ clockEnd) :
    let l := (empty ttl maxEntries order).uses us
    let w := (World.start wall (Cache.empty ttl maxEntries order) 0).uses us
    w.1 = l.1.map some ∧
      w.2.backend = l.2.builds ∧
      (w.2.cache.index.map fun e => (e.1, w.2.cache.held? e.2)) =
        l.2.entries.map (fun x => (x.1, some x.2)) ∧
      w.2.cache.size ≤ max maxEntries 1 := by
  intro l w
  have mirrors : (World.start wall (Cache.empty ttl maxEntries order) 0).Mirrors
      (empty ttl maxEntries order) := ⟨rfl, rfl, rfl, rfl, rfl, rfl, .nil⟩
  obtain ⟨outcomes, last, sound⟩ := mirrors.uses (sound_empty ttl maxEntries order) us reached
    (List.forall_mem_nil _) welcome
  refine ⟨outcomes, last.builds, Cache.held_of_shows last.shown, ?_⟩
  have few := sound.few
  rw [maxEntries_uses, ← last.shown.length_eq] at few
  exact few

def asks (token : String) (takes : Nat) (failure : Option BackendError) : Use :=
  .get ⟨.bearer token, none⟩ ⟨none⟩ ⟨takes, failure⟩

/-- A cache for two: the clients of alice and of bob are there from the same moment on, and one of
them makes room for carol. A build fails, and what goes stale is built anew or purged. -/
def busyCache : List Use :=
  [asks "alice" 5 none, asks "bob" 0 none, asks "alice" 0 none, .pass 20, asks "carol" 3 none,
    asks "alice" 0 none, asks "dave" 1 (some (.invalidIdentity "credential rejected")),
    .setWall ⟨60, 0⟩, .pass 90, asks "carol" 0 none, .pass 10, asks "carol" 4 none,
    asks "dave" 0 none, .evict ⟨.bearer "carol", none⟩, .pass 100, .purge]

/-- An order in which bob comes before the others. -/
def bobFirst : KeyOrder := fun _ key => if key.identity = ⟨.bearer "bob", none⟩ then 0 else 1

/-- It is bob or alice who makes room for carol, and alice's client is built once or twice. -/
theorem followed_of_busy_cache :
    (∀ identity scope trial, Use.get identity scope trial ∈ busyCache →
      identity.isBlank = false ∧ identity.Lasts ⟨0, 0⟩ busyCache) ∧
    (∀ order ∈ [bobFirst, .asCame],
      ((empty 100 2 order).uses busyCache).2.now + 100 ≤ clockEnd ∧
      ((World.start ⟨0, 0⟩ (Cache.empty 100 2 order) 0).uses busyCache).1 =
        ((empty 100 2 order).uses busyCache).1.map some) ∧
    ((World.start ⟨0, 0⟩ (Cache.empty 100 2 bobFirst) 0).uses busyCache).2.backend = 6 ∧
    ((World.start ⟨0, 0⟩ (Cache.empty 100 2) 0).uses busyCache).2.backend = 7 := by
  have welcome : ∀ identity scope trial, Use.get identity scope trial ∈ busyCache →
      identity.isBlank = false ∧ identity.Lasts ⟨0, 0⟩ busyCache := by
    intro identity scope trial member
    have asked : identity.expiresAt = none ∧ identity.isBlank = false := by
      simp only [busyCache, asks, List.mem_cons, Use.get.injEq, reduceCtorEq, List.not_mem_nil,
        or_false, false_or] at member
      rcases member with ⟨rfl, -⟩ | ⟨rfl, -⟩ | ⟨rfl, -⟩ | ⟨rfl, -⟩ | ⟨rfl, -⟩ | ⟨rfl, -⟩ |
        ⟨rfl, -⟩ | ⟨rfl, -⟩ | ⟨rfl, -⟩ <;> exact ⟨rfl, by decide +kernel⟩
    have endless (moment : Time.Instant) : identity.isExpiredAt moment = false := by
      simp [Identity.isExpiredAt, asked.1]
    exact ⟨asked.2, endless _, fun moment _ => endless moment⟩
  have reached : ∀ order ∈ [bobFirst, .asCame],
      ((empty 100 2 order).uses busyCache).2.now + 100 ≤ clockEnd := by
    rw [List.forall_mem_cons, List.forall_mem_singleton]
    decide +kernel
  have outcomes (order : KeyOrder) (either : order ∈ [bobFirst, .asCame]) :=
    followed 100 2 order ⟨0, 0⟩ busyCache welcome (reached order either)
  refine ⟨welcome, fun order either => ⟨reached order either, (outcomes order either).1⟩, ?_, ?_⟩
  · exact (outcomes bobFirst (by simp)).2.1.trans (by decide +kernel)
  · exact (outcomes .asCame (by simp)).2.1.trans (by decide +kernel)

/-- With a time to live that the clock does not reach the end of, the ledger gives its client again,
and the cache gives nothing. -/
theorem not_followed_beyond_clock :
    ((World.start ⟨0, 0⟩ (Cache.empty (18446744073709551615 * 1000) 16) 0).uses
        [asks "alice" 0 none, asks "alice" 0 none]).1.map Option.isSome = [true, false] ∧
      ((empty (18446744073709551615 * 1000) 16 .asCame).uses
        [asks "alice" 0 none, asks "alice" 0 none]).1 =
          [.got (.ok ⟨0, ⟨.bearer "alice", none⟩, ⟨none⟩⟩),
            .got (.ok ⟨0, ⟨.bearer "alice", none⟩, ⟨none⟩⟩)] := by
  refine ⟨by decide +kernel, ?_⟩
  rfl

end Ledger

end ClusterGraph
