import ClusterGraph.Proofs.Access.Passage
import ClusterGraph.Proofs.Access.Slots

/-!
# Nobody gets a client of another

Whatever the callers do and in whatever order, the client that a caller gets was built for its
identity and its normalized scope. A slot may be shared by many callers, be dropped from the index
while a build for it is under way, and be replaced by another one of the same key; but it keeps its
key for good, and whatever is built on its behalf is built for that key. `World.Sound` says so of
the cache, and `Passage.Fits` of a caller: its slot, its build and its client are those of its key.
-/
namespace ClusterGraph

/-! ## Builds for a key -/

namespace OrderBook

/-- A build was started for a key. -/
def IsFor (b : OrderBook) (key : CacheKey) (n : Nat) : Prop :=
  ∃ progress, b[n]? = some ⟨key.identity, key.scope, progress⟩

/-- A build for a key has succeeded. -/
def Gives (b : OrderBook) (key : CacheKey) (n : Nat) : Prop :=
  b[n]? = some ⟨key.identity, key.scope, .succeeded⟩

/-- A client is what a build for a key has given. -/
def Made (b : OrderBook) (key : CacheKey) (client : Client) : Prop :=
  ∃ n, client = key.clientOf n ∧ b.Gives key n

theorem getElem?_place (b : OrderBook) (identity : Identity) (scope : Scope) (n : Nat) (o : Order)
    (h : b[n]? = some o) : (b.place identity scope)[n]? = some o := by
  have bound : n < b.length := (List.getElem?_eq_some_iff.mp h).1
  unfold place
  rw [List.getElem?_append_left bound]
  exact h

theorem isFor_place_length (b : OrderBook) (key : CacheKey) :
    (b.place key.identity key.scope).IsFor key b.length := by
  refine ⟨.inFlight, ?_⟩
  simp [place]

theorem isFor_finish (b : OrderBook) (m : Nat) (p : Progress) (key : CacheKey) (n : Nat)
    (h : b.IsFor key n) : (b.finish m p).IsFor key n := by
  obtain ⟨progress, found⟩ := h
  unfold finish IsFor
  rw [List.getElem?_modify, found]
  by_cases same : m = n
  · by_cases flying : progress = .inFlight
    · exact ⟨p, by simp [same, flying]⟩
    · exact ⟨progress, by simp [same, flying]⟩
  · exact ⟨progress, by simp [same]⟩

/-- What a build came to is not changed any more. -/
theorem gives_finish (b : OrderBook) (m : Nat) (p : Progress) (key : CacheKey) (n : Nat)
    (h : b.Gives key n) : (b.finish m p).Gives key n := by
  unfold Gives finish at *
  rw [List.getElem?_modify, h]
  simp

theorem gives_of_result (b : OrderBook) (key : CacheKey) (n : Nat) (c : Client)
    (mine : b.IsFor key n) (h : b.result (key.clientOf n) = .ok c) : b.Gives key n := by
  obtain ⟨progress, found⟩ := mine
  unfold result at h
  simp only [CacheKey.clientOf, found, Option.map_some] at h
  split at h
  · rename_i succeeded
    cases Option.some.inj succeeded
    exact found
  · cases h
  · cases h

end OrderBook

/-! ## What only grows -/

/-- Slots keep their keys, and builds what they were started for and what they have given. -/
structure World.Grows (w w' : World OrderBook) : Prop where
  keys : ∀ n key, w.cache.keyOf? n = some key → w'.cache.keyOf? n = some key
  orders : ∀ key n, w.backend.IsFor key n → w'.backend.IsFor key n
  clients : ∀ key n, w.backend.Gives key n → w'.backend.Gives key n

/-- Every current slot is one of its key, and every client in a slot was built for the key of the
slot. -/
structure World.Sound (w : World OrderBook) : Prop where
  index : ∀ e ∈ w.cache.index, w.cache.keyOf? e.2 = some e.1
  entries : ∀ n entry, w.cache.held? n = some entry →
    ∃ key, w.cache.keyOf? n = some key ∧ w.backend.Made key entry.client

/-- A change that only adds to a sound world. -/
structure World.Keeps (w w' : World OrderBook) : Prop where
  grows : w.Grows w'
  sound : w'.Sound

namespace World

theorem made_of_grows (w w' : World OrderBook) (grows : w.Grows w') (key : CacheKey)
    (client : Client) (made : w.backend.Made key client) : w'.backend.Made key client := by
  obtain ⟨n, same, gives⟩ := made
  exact ⟨n, same, grows.clients key n gives⟩

/-- The client in a slot was built for the key of the slot. -/
theorem Sound.made (w : World OrderBook) (sound : w.Sound) (n : Nat) (key : CacheKey)
    (entry : CacheEntry) (mine : w.cache.keyOf? n = some key)
    (found : w.cache.held? n = some entry) : w.backend.Made key entry.client := by
  obtain ⟨other, theirs, made⟩ := sound.entries n entry found
  cases theirs.symm.trans mine
  exact made

/-- A change keeps everything if it leaves slots and builds alone and adds nothing to the index. -/
theorem keeps_of_index_subset (w w' : World OrderBook) (sound : w.Sound)
    (slots : w'.cache.slots = w.cache.slots) (index : w'.cache.index ⊆ w.cache.index)
    (orders : w'.backend = w.backend) : w.Keeps w' := by
  have keys (n : Nat) : w'.cache.keyOf? n = w.cache.keyOf? n := by
    unfold Cache.keyOf?
    rw [slots]
  have clients (n : Nat) : w'.cache.held? n = w.cache.held? n := by
    unfold Cache.held?
    rw [slots]
  refine ⟨⟨?_, ?_, ?_⟩, ⟨?_, ?_⟩⟩
  · intro n key h
    rw [keys]
    exact h
  · intro key n h
    rw [orders]
    exact h
  · intro key n h
    rw [orders]
    exact h
  · intro e member
    rw [keys]
    exact sound.index e (index member)
  · intro n entry h
    rw [clients] at h
    rw [keys, orders]
    exact sound.entries n entry h

theorem keeps_refl (w : World OrderBook) (sound : w.Sound) : w.Keeps w :=
  keeps_of_index_subset w w sound rfl (List.Subset.refl _) rfl

/-- A change to one slot that concerns neither its key nor its client keeps everything. -/
theorem keeps_modify (w : World OrderBook) (sound : w.Sound) (slot : Nat) (f : Slot → Slot)
    (key_same : ∀ s, (f s).key = s.key) (entry_same : ∀ s, (f s).entry = s.entry) :
    w.Keeps (w.mapCache (·.modify slot f)) := by
  have keys (n : Nat) : (w.cache.modify slot f).keyOf? n = w.cache.keyOf? n :=
    Cache.keyOf?_modify w.cache slot n f key_same
  have clients (n : Nat) : (w.cache.modify slot f).held? n = w.cache.held? n :=
    Cache.held?_modify w.cache slot n f entry_same
  refine ⟨⟨?_, fun _ _ h => h, fun _ _ h => h⟩, ⟨?_, ?_⟩⟩
  · intro n key h
    exact (keys n).trans h
  · intro e member
    exact (keys e.2).trans (sound.index e member)
  · intro n entry h
    obtain ⟨key, mine, made⟩ := sound.entries n entry ((clients n).symm.trans h)
    exact ⟨key, (keys n).trans mine, made⟩

theorem keeps_leaveSlot (w : World OrderBook) (sound : w.Sound) (slot ticket : Nat) :
    w.Keeps (w.leaveSlot slot ticket) :=
  keeps_modify w sound slot _ (fun s => s.key_leave ticket) (fun s => s.entry_leave ticket)

theorem keeps_enter (w : World OrderBook) (sound : w.Sound) (slot : Nat) :
    w.Keeps (w.enter slot).2 := by
  unfold enter
  split
  · exact keeps_refl w sound
  · have keeps := keeps_modify w sound slot (·.join w.tickets) (fun s => s.key_join w.tickets)
      (fun s => s.entry_join w.tickets)
    exact ⟨⟨keeps.grows.keys, keeps.grows.orders, keeps.grows.clients⟩,
      ⟨keeps.sound.index, keeps.sound.entries⟩⟩

theorem keeps_mapBackend (w : World OrderBook) (sound : w.Sound) (f : OrderBook → OrderBook)
    (orders : ∀ key n, w.backend.IsFor key n → (f w.backend).IsFor key n)
    (clients : ∀ key n, w.backend.Gives key n → (f w.backend).Gives key n) :
    w.Keeps (w.mapBackend f) := by
  refine ⟨⟨fun _ _ h => h, orders, clients⟩, ⟨sound.index, ?_⟩⟩
  intro n entry h
  obtain ⟨key, mine, m, same, gives⟩ := sound.entries n entry h
  exact ⟨key, mine, m, same, clients key m gives⟩

theorem keeps_place (w : World OrderBook) (sound : w.Sound) (identity : Identity) (scope : Scope) :
    w.Keeps (w.mapBackend (OrderBook.place identity scope)) := by
  refine keeps_mapBackend w sound _ ?_ ?_
  · intro key n h
    obtain ⟨progress, found⟩ := h
    exact ⟨progress, OrderBook.getElem?_place _ _ _ _ _ found⟩
  · intro key n h
    exact OrderBook.getElem?_place _ _ _ _ _ h

theorem keeps_finish (w : World OrderBook) (sound : w.Sound) (n : Nat) (p : Progress) :
    w.Keeps (w.mapBackend (OrderBook.finish n p)) :=
  keeps_mapBackend w sound _ (OrderBook.isFor_finish w.backend n p)
    (OrderBook.gives_finish w.backend n p)

/-- A client that was built for the key of a slot may be put into the slot. -/
theorem keeps_settleSlot (w : World OrderBook) (sound : w.Sound) (slot : Nat) (entry : CacheEntry)
    (key : CacheKey) (mine : w.cache.keyOf? slot = some key)
    (made : w.backend.Made key entry.client) : w.Keeps (w.settleSlot slot entry) := by
  have keys (n : Nat) : (w.settleSlot slot entry).cache.keyOf? n = w.cache.keyOf? n :=
    Cache.keyOf?_settle w.cache slot n entry
  refine ⟨⟨?_, fun _ _ h => h, fun _ _ h => h⟩, ⟨?_, ?_⟩⟩
  · intro n k h
    exact (keys n).trans h
  · intro e member
    exact (keys e.2).trans (sound.index e member)
  · intro n found h
    rcases Cache.held?_settle w.cache slot n entry found h with ⟨rfl, rfl⟩ | old
    · exact ⟨key, (keys n).trans mine, made⟩
    · obtain ⟨k, theirs, before⟩ := sound.entries n found old
      exact ⟨k, (keys n).trans theirs, before⟩

theorem keeps_makeSlot (w : World OrderBook) (sound : w.Sound) (key : CacheKey) :
    w.Keeps (w.mapCache fun c => (c.makeSlot key).1) := by
  have keys (n : Nat) (k : CacheKey) (h : w.cache.keyOf? n = some k) :
      (w.cache.makeSlot key).1.keyOf? n = some k := by
    rw [Cache.keyOf?_makeSlot, if_neg (Nat.ne_of_lt (Cache.keyOf?_lt _ _ _ h))]
    exact h
  refine ⟨⟨keys, fun _ _ h => h, fun _ _ h => h⟩, ⟨?_, ?_⟩⟩
  · intro e member
    rcases Cache.index_makeSlot w.cache key e member with old | rfl
    · exact keys e.2 e.1 (sound.index e old)
    · exact (Cache.keyOf?_makeSlot w.cache key _).trans (if_pos rfl)
  · intro n entry h
    have old : w.cache.held? n = some entry := (Cache.held?_makeSlot w.cache key n).symm.trans h
    obtain ⟨k, theirs, before⟩ := sound.entries n entry old
    exact ⟨k, keys n k theirs, before⟩

/-- The slot that is found or made for a key is one of the key. -/
theorem keeps_seek (w : World OrderBook) (sound : w.Sound) (key : CacheKey) (now : Nat) :
    w.Keeps (w.seek key now).2 ∧
      ∀ slot, (w.seek key now).1 = some slot →
        (w.seek key now).2.cache.keyOf? slot = some key := by
  rcases w.seek_cases key now with ended | ⟨n, found, member⟩ | made
  · rw [ended]
    exact ⟨keeps_of_index_subset w _ sound rfl (List.Subset.refl _) rfl, nofun⟩
  · rw [found]
    refine ⟨keeps_refl w sound, ?_⟩
    intro slot h
    cases h
    exact sound.index _ member
  · rw [made]
    refine ⟨keeps_makeSlot w sound key, ?_⟩
    intro slot h
    cases h
    exact (Cache.keyOf?_makeSlot w.cache key _).trans (if_pos rfl)

end World

/-! ## Callers -/

namespace Passage

/-- The build that a caller knows to have succeeded. -/
def success? : Passage → Option Nat
  | stamping _ _ order => some order
  | settling _ _ order _ => some order
  | _ => none

/-- A caller with a key has a slot of the key, its build is for the key, and a client that it was
given was built for the key. -/
structure Fits (key : CacheKey) (w : World OrderBook) (p : Passage) : Prop where
  slot : ∀ n, p.slot? = some n → w.cache.keyOf? n = some key
  order : ∀ n, p.order? = some n → w.backend.IsFor key n
  success : ∀ n, p.success? = some n → w.backend.Gives key n
  client : ∀ c, p = finished (.ok c) → w.backend.Made key c

theorem Fits.mono (key : CacheKey) (w w' : World OrderBook) (p : Passage) (grows : w.Grows w')
    (fits : p.Fits key w) : p.Fits key w' where
  slot n h := grows.keys n key (fits.slot n h)
  order n h := grows.orders key n (fits.order n h)
  success n h := grows.clients key n (fits.success n h)
  client c h := World.made_of_grows w w' grows key c (fits.client c h)

theorem first_fits (identity : Identity) (key : CacheKey) (w : World OrderBook) :
    (first identity).Fits key w := by
  unfold first
  split <;> exact ⟨nofun, nofun, nofun, nofun⟩

/-- A caller keeps the build that it knows to have succeeded, or has just learnt of it. -/
theorem success?_next (key : CacheKey) (w : World OrderBook) (p : Passage) (n : Nat)
    (h : (p.next key w).1.success? = some n) :
    p.success? = some n ∨
      ∃ slot ticket c,
        p = collecting slot ticket n ∧ w.backend.result (key.clientOf n) = .ok c := by
  cases p with
  | collecting slot ticket order =>
    simp only [next] at h
    split at h
    · next c succeeded =>
      cases h
      exact Or.inr ⟨slot, ticket, c, rfl, succeeded⟩
    · cases h
  | stamping slot ticket order => exact Or.inl h
  | arriving | seeking now | entering slot | checking slot ticket | waiting slot ticket
  | proceeding slot ticket | building slot ticket order =>
    simp only [next] at h
    split at h <;> cases h
  | _ => cases h

/-- Whatever a caller that fits does next keeps everything. -/
theorem keeps_next (key : CacheKey) (w : World OrderBook) (p : Passage) (sound : w.Sound)
    (fits : p.Fits key w) : w.Keeps (p.next key w).2 := by
  cases p with
  | expelling =>
    exact World.keeps_of_index_subset w _ sound rfl (Cache.index_evict_subset _ _) rfl
  | seeking now => exact (World.keeps_seek w sound key now).1
  | entering slot => exact World.keeps_enter w sound slot
  | ordering slot ticket => exact World.keeps_place w sound key.identity key.scope
  | settling slot ticket order created =>
    exact World.keeps_settleSlot w sound slot _ key (fits.slot slot rfl)
      ⟨order, rfl, fits.success order rfl⟩
  | leaving slot ticket e => exact World.keeps_leaveSlot w sound slot ticket
  | sweeping slot e =>
    exact World.keeps_of_index_subset w _ sound (Cache.slots_sweep _ _ _)
      (Cache.index_sweep_subset _ _ _) rfl
  | _ => exact World.keeps_refl w sound

/-- A caller that fits does so at its next place. -/
theorem next_fits (key : CacheKey) (w : World OrderBook) (p : Passage) (sound : w.Sound)
    (fits : p.Fits key w) : (p.next key w).1.Fits key (p.next key w).2 := by
  have grows := (keeps_next key w p sound fits).grows
  refine ⟨?_, ?_, ?_, ?_⟩
  · intro n h
    rcases slot?_next key w p n h with old | ⟨now, rfl, found⟩
    · exact grows.keys n key (fits.slot n old)
    · exact (World.keeps_seek w sound key now).2 n found
  · intro n h
    rcases order?_next key w p n h with old | ⟨slot, ticket, rfl, rfl⟩
    · exact grows.orders key n (fits.order n old)
    · exact OrderBook.isFor_place_length w.backend key
  · intro n h
    rcases success?_next key w p n h with old | ⟨slot, ticket, c, rfl, succeeded⟩
    · exact grows.clients key n (fits.success n old)
    · exact grows.clients key n
        (OrderBook.gives_of_result w.backend key n c (fits.order n rfl) succeeded)
  · intro c h
    have before : w.backend.Made key c := by
      rcases client_of_next key w p c h with old | ⟨slot, entry, mine, found, rfl⟩
        | ⟨slot, ticket, order, created, rfl, rfl⟩
      · exact fits.client c old
      · exact World.Sound.made w sound slot key entry (fits.slot slot mine) found
      · exact ⟨order, rfl, fits.success order rfl⟩
    exact World.made_of_grows w _ grows key c before

/-- What is undone when a caller is dropped keeps everything. -/
theorem keeps_undo (w : World OrderBook) (p : Passage) (sound : w.Sound) : w.Keeps (p.undo w) := by
  cases p with
  | waiting slot ticket => exact World.keeps_leaveSlot w sound slot ticket
  | building slot ticket order =>
    have finished := World.keeps_finish w sound order .abandoned
    have left := World.keeps_leaveSlot _ finished.sound slot ticket
    refine ⟨⟨?_, ?_, ?_⟩, left.sound⟩
    · intro n key h
      exact left.grows.keys n key (finished.grows.keys n key h)
    · intro key n h
      exact left.grows.orders key n (finished.grows.orders key n h)
    · intro key n h
      exact left.grows.clients key n (finished.grows.clients key n h)
  | _ => exact World.keeps_refl w sound

end Passage

/-! ## Runs -/

namespace Course

/-- The world is sound and every caller fits into it. -/
structure Sound (c : Course) : Prop where
  world : c.world.Sound
  visits : ∀ v ∈ c.visits, ∀ p, v.place = some p → p.Fits v.key c.world

theorem sound_start (ttl maxEntries : Nat) (order : KeyOrder) (wall : Time.Instant) :
    (start ttl maxEntries order wall).Sound := by
  refine ⟨⟨?_, ?_⟩, ?_⟩
  · intro e member
    cases member
  · intro n entry found
    cases found
  · intro v member
    cases member

/-- A change that keeps everything leaves the callers where they fit. -/
theorem sound_of_keeps (c : Course) (w : World OrderBook) (sound : c.Sound)
    (keeps : c.world.Keeps w) : Sound ⟨w, c.visits⟩ where
  world := keeps.sound
  visits v member p place :=
    Passage.Fits.mono v.key c.world w p keeps.grows (sound.visits v member p place)

/-- The same if one of the callers gets to another place, provided that it fits there. -/
theorem sound_of_set (c : Course) (w : World OrderBook) (k : Nat) (new : Visit) (sound : c.Sound)
    (keeps : c.world.Keeps w) (fits : ∀ p, new.place = some p → p.Fits new.key w) :
    Sound ⟨w, c.visits.set k new⟩ := by
  refine ⟨keeps.sound, ?_⟩
  intro v member p place
  rcases List.mem_or_eq_of_mem_set member with old | rfl
  · exact Passage.Fits.mono v.key c.world w p keeps.grows (sound.visits v old p place)
  · exact fits p place

theorem sound_step (c : Course) (m : Move) (sound : c.Sound) : (c.step m).Sound := by
  cases m with
  | call identity scope =>
    refine ⟨sound.world, ?_⟩
    intro v member p place
    rcases List.mem_append.mp member with old | new
    · exact sound.visits v old p place
    · cases List.mem_singleton.mp new
      cases place
      exact Passage.first_fits identity _ c.world
  | go k =>
    simp only [step]
    split
    · next identity scope p found =>
      have fits := sound.visits _ (List.mem_of_getElem? found) p rfl
      refine sound_of_set c _ k _ sound (Passage.keeps_next _ c.world p sound.world fits) ?_
      intro p' place
      cases place
      exact Passage.next_fits _ c.world p sound.world fits
    · exact sound
  | drop k =>
    simp only [step]
    split
    · split
      · refine sound_of_set c _ k _ sound (Passage.keeps_undo c.world _ sound.world) ?_
        rintro p ⟨⟩
      · exact sound
    · exact sound
  | succeed n => exact sound_of_keeps c _ sound (World.keeps_finish c.world sound.world n _)
  | fail n e => exact sound_of_keeps c _ sound (World.keeps_finish c.world sound.world n _)
  | pass d =>
    exact sound_of_keeps c _ sound
      (World.keeps_of_index_subset c.world _ sound.world rfl (List.Subset.refl _) rfl)
  | setWall wall =>
    exact sound_of_keeps c _ sound
      (World.keeps_of_index_subset c.world _ sound.world rfl (List.Subset.refl _) rfl)
  | evict identity =>
    exact sound_of_keeps c _ sound
      (World.keeps_of_index_subset c.world _ sound.world rfl (Cache.index_evict_subset _ _) rfl)
  | purge =>
    refine sound_of_keeps c _ sound ?_
    rcases c.world.purge_cases with ended | purged
    · rw [ended]
      exact World.keeps_of_index_subset c.world _ sound.world rfl (List.Subset.refl _) rfl
    · rw [purged]
      exact World.keeps_of_index_subset c.world _ sound.world rfl
        (Cache.index_purge_subset _ _ _) rfl

theorem sound_run (c : Course) (moves : List Move) (sound : c.Sound) : (c.run moves).Sound := by
  induction moves generalizing c with
  | nil => exact sound
  | cons m rest ih => exact ih (c.step m) (sound_step c m sound)

/-- The client of a caller at its end was built for the key of the caller. -/
theorem made_of_finished (c : Course) (sound : c.Sound) (v : Visit) (member : v ∈ c.visits)
    (client : Client) (place : v.place = some (.finished (.ok client))) :
    c.world.backend.Made v.key client :=
  (sound.visits v member _ place).client client rfl

end Course

namespace Traffic

/-- In every run, a client that a caller gets is what a build has given that was started for the
identity of the caller and its normalized scope. -/
theorem client_built_for_caller (ttl maxEntries : Nat) (order : KeyOrder) (wall : Time.Instant)
    (moves : List Move) (caller : Caller) (client : Client)
    (present : caller ∈ ((start ttl maxEntries order wall).run moves).callers)
    (returned : caller.result? = some (.ok client)) :
    client.identity = caller.identity ∧ client.scope = caller.scope.normalized ∧
      ((start ttl maxEntries order wall).run moves).world.backend[client.serial]? =
        some ⟨caller.identity, caller.scope.normalized, .succeeded⟩ := by
  rw [run_start] at present ⊢
  have sound : ((Course.start ttl maxEntries order wall).run moves).Sound :=
    Course.sound_run _ moves (Course.sound_start ttl maxEntries order wall)
  obtain ⟨v, member, rfl⟩ := List.mem_map.mp present
  have place := Visit.place_of_result? v (.ok client) returned
  obtain ⟨n, rfl, gives⟩ := Course.made_of_finished _ sound v member client place
  exact ⟨rfl, rfl, gives⟩

/-- Two callers of one identity, one of which names a blank namespace, share a build. -/
def sharedBuild : List Move :=
  List.flatten
    [[.call ⟨.bearer "alice", none⟩ ⟨some " "⟩, .call ⟨.bearer "alice", none⟩ ⟨none⟩],
      List.replicate 7 (.go 0), List.replicate 5 (.go 1), [.succeed 0],
      List.replicate 4 (.go 0), List.replicate 2 (.go 1)]

theorem client_built_for_second_caller :
    ∃ caller : Caller, ∃ client : Client,
      caller ∈ ((start 60000 16 .asCame ⟨0, 0⟩).run sharedBuild).callers ∧
        caller.result? = some (.ok client) ∧ caller.scope.normalized = ⟨none⟩ ∧
          client.identity = caller.identity ∧ client.scope = caller.scope.normalized ∧
            ((start 60000 16 .asCame ⟨0, 0⟩).run sharedBuild).world.backend[client.serial]? =
              some ⟨caller.identity, caller.scope.normalized, .succeeded⟩ := by
  have second : ((start 60000 16 .asCame ⟨0, 0⟩).run sharedBuild).callers[1]? =
      some ⟨⟨.bearer "alice", none⟩, ⟨none⟩,
        some (.done (.ok ⟨0, ⟨.bearer "alice", none⟩, ⟨none⟩⟩))⟩ := by
    rfl
  have present := List.mem_of_getElem? second
  exact ⟨_, _, present, rfl, rfl, client_built_for_caller _ _ _ _ _ _ _ present rfl⟩

end Traffic
end ClusterGraph
