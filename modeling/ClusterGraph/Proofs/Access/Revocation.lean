import ClusterGraph.Proofs.Access.Isolation

/-!
# Nothing old after an eviction

A caller that comes after its identity was evicted never gets a client of an earlier build. Builds
that were under way at the eviction may still succeed, and those who wait for them get their
clients; but they are put into slots that the index has lost for good. Slots and builds are numbered
in the order in which they were made and started, so that "earlier" is a matter of numbers: at the
eviction there are so many slots and so many builds, and every slot that a later caller of the
identity may meet is a later one, with a client of a later build if any.
-/
namespace ClusterGraph

/-- An identity has lost its slots up to a number, and every later slot has a client of a build from
a number on, if it has one. -/
structure World.Cleared (identity : Identity) (slots orders : Nat) (w : World OrderBook) :
    Prop where
  slots_le : slots ≤ w.cache.slots.length
  orders_le : orders ≤ w.backend.length
  index : ∀ e ∈ w.cache.index, e.1.identity = identity → slots ≤ e.2
  entries : ∀ n entry, slots ≤ n → w.cache.held? n = some entry → orders ≤ entry.client.serial

namespace World
variable {identity : Identity} {slots orders : Nat}

/-- An identity without current slots is cleared of all slots and builds so far. -/
theorem cleared_of_no_index (identity : Identity) (w : World OrderBook)
    (lost : ∀ e ∈ w.cache.index, e.1.identity ≠ identity) :
    w.Cleared identity w.cache.slots.length w.backend.length := by
  refine ⟨Nat.le_refl _, Nat.le_refl _, ?_, ?_⟩
  · intro e member same
    exact absurd same (lost e member)
  · intro n entry later found
    have bound := Cache.held?_lt w.cache n entry found
    omega

/-- A change that adds nothing to the index and puts no client into a slot brings nothing back. -/
theorem cleared_of_le (w w' : World OrderBook) (cleared : w.Cleared identity slots orders)
    (more_slots : w.cache.slots.length ≤ w'.cache.slots.length)
    (more_orders : w.backend.length ≤ w'.backend.length)
    (index : w'.cache.index ⊆ w.cache.index)
    (held : ∀ n, w'.cache.held? n = w.cache.held? n) : w'.Cleared identity slots orders where
  slots_le := Nat.le_trans cleared.slots_le more_slots
  orders_le := Nat.le_trans cleared.orders_le more_orders
  index e member := cleared.index e (index member)
  entries n entry later found := cleared.entries n entry later ((held n).symm.trans found)

/-- The same if all that happens is that the index loses entries. -/
theorem cleared_of_index_subset (w w' : World OrderBook) (cleared : w.Cleared identity slots orders)
    (same_slots : w'.cache.slots = w.cache.slots) (same_orders : w'.backend = w.backend)
    (index : w'.cache.index ⊆ w.cache.index) : w'.Cleared identity slots orders := by
  refine cleared_of_le w w' cleared ?_ ?_ index ?_
  · exact Nat.le_of_eq (congrArg List.length same_slots.symm)
  · exact Nat.le_of_eq (congrArg List.length same_orders.symm)
  · intro n
    unfold Cache.held?
    rw [same_slots]

theorem cleared_leaveSlot (w : World OrderBook) (cleared : w.Cleared identity slots orders)
    (slot ticket : Nat) : (w.leaveSlot slot ticket).Cleared identity slots orders := by
  refine cleared_of_le w _ cleared ?_ (Nat.le_refl _) (List.Subset.refl _) ?_
  · exact Nat.le_of_eq (Cache.length_slots_modify _ _ _).symm
  · exact fun n => Cache.held?_leave w.cache slot n ticket

theorem cleared_enter (w : World OrderBook) (cleared : w.Cleared identity slots orders)
    (slot : Nat) : (w.enter slot).2.Cleared identity slots orders := by
  unfold enter
  split
  · exact cleared
  · refine cleared_of_le w _ cleared ?_ (Nat.le_refl _) (List.Subset.refl _) ?_
    · exact Nat.le_of_eq (Cache.length_slots_modify _ _ _).symm
    · exact fun n => Cache.held?_join w.cache slot n w.tickets

theorem cleared_place (w : World OrderBook) (cleared : w.Cleared identity slots orders)
    (i : Identity) (s : Scope) :
    (w.mapBackend (OrderBook.place i s)).Cleared identity slots orders := by
  refine cleared_of_le w _ cleared (Nat.le_refl _) ?_ (List.Subset.refl _) fun _ => rfl
  simp [mapBackend, OrderBook.place]

theorem cleared_finish (w : World OrderBook) (cleared : w.Cleared identity slots orders)
    (n : Nat) (p : Progress) :
    (w.mapBackend (OrderBook.finish n p)).Cleared identity slots orders := by
  refine cleared_of_le w _ cleared (Nat.le_refl _) ?_ (List.Subset.refl _) fun _ => rfl
  simp [mapBackend, OrderBook.finish]

/-- A client may be put into a later slot if it is of a later build. -/
theorem cleared_settleSlot (w : World OrderBook) (cleared : w.Cleared identity slots orders)
    (slot : Nat) (entry : CacheEntry) (late : slots ≤ slot → orders ≤ entry.client.serial) :
    (w.settleSlot slot entry).Cleared identity slots orders := by
  refine ⟨?_, cleared.orders_le, cleared.index, ?_⟩
  · exact Nat.le_trans cleared.slots_le (Nat.le_of_eq (Cache.length_slots_modify _ _ _).symm)
  · intro n found later h
    rcases Cache.held?_settle w.cache slot n entry found h with ⟨rfl, rfl⟩ | old
    · exact late later
    · exact cleared.entries n found later old

theorem cleared_makeSlot (w : World OrderBook) (cleared : w.Cleared identity slots orders)
    (key : CacheKey) : (w.mapCache fun c => (c.makeSlot key).1).Cleared identity slots orders := by
  refine ⟨?_, cleared.orders_le, ?_, ?_⟩
  · have before := cleared.slots_le
    simp only [mapCache, Cache.slots_makeSlot, List.length_append, List.length_cons,
      List.length_nil]
    omega
  · intro e member same
    rcases Cache.index_makeSlot w.cache key e member with old | rfl
    · exact cleared.index e old same
    · exact cleared.slots_le
  · intro n entry later h
    exact cleared.entries n entry later ((Cache.held?_makeSlot w.cache key n).symm.trans h)

/-- The slot that is found or made for the identity is a later one. -/
theorem cleared_seek (w : World OrderBook) (cleared : w.Cleared identity slots orders)
    (key : CacheKey) (now : Nat) :
    (w.seek key now).2.Cleared identity slots orders ∧
      ∀ slot, key.identity = identity → (w.seek key now).1 = some slot → slots ≤ slot := by
  rcases w.seek_cases key now with ended | ⟨n, found, member⟩ | made
  · rw [ended]
    exact ⟨cleared_of_index_subset w _ cleared rfl rfl (List.Subset.refl _), nofun⟩
  · rw [found]
    refine ⟨cleared, ?_⟩
    intro slot same h
    cases h
    exact cleared.index _ member same
  · rw [made]
    refine ⟨cleared_makeSlot w cleared key, ?_⟩
    intro slot same h
    cases h
    exact cleared.slots_le

end World

/-! ## Callers -/

namespace Passage

/-- A caller with a later slot has a later build, if any. -/
def Ordered (slots orders : Nat) (p : Passage) : Prop :=
  ∀ slot order, p.slot? = some slot → p.order? = some order → slots ≤ slot → orders ≤ order

/-- A caller has nothing but a later slot and a client of a later build. -/
structure Late (slots orders : Nat) (p : Passage) : Prop where
  slot : ∀ n, p.slot? = some n → slots ≤ n
  client : ∀ c, p = finished (.ok c) → orders ≤ c.serial

variable {identity : Identity} {slots orders : Nat}

theorem ordered_of_order?_none (p : Passage) (h : p.order? = none) : p.Ordered slots orders := by
  intro slot order _ ordered
  rw [h] at ordered
  cases ordered

/-- Whatever a caller does next brings nothing back. -/
theorem next_cleared (key : CacheKey) (w : World OrderBook) (p : Passage)
    (cleared : w.Cleared identity slots orders) (ordered : p.Ordered slots orders) :
    (p.next key w).2.Cleared identity slots orders := by
  cases p with
  | expelling =>
    exact World.cleared_of_index_subset w _ cleared rfl rfl (Cache.index_evict_subset _ _)
  | seeking now => exact (World.cleared_seek w cleared key now).1
  | entering slot => exact World.cleared_enter w cleared slot
  | ordering slot ticket => exact World.cleared_place w cleared key.identity key.scope
  | settling slot ticket order created =>
    exact World.cleared_settleSlot w cleared slot ⟨key.clientOf order, created⟩
      (ordered slot order rfl rfl)
  | leaving slot ticket e => exact World.cleared_leaveSlot w cleared slot ticket
  | sweeping slot e =>
    exact World.cleared_of_index_subset w _ cleared (Cache.slots_sweep _ _ _) rfl
      (Cache.index_sweep_subset _ _ _)
  | _ => exact cleared

/-- The build of a caller is later if its slot is. -/
theorem next_ordered (key : CacheKey) (w : World OrderBook) (p : Passage)
    (cleared : w.Cleared identity slots orders) (ordered : p.Ordered slots orders) :
    (p.next key w).1.Ordered slots orders := by
  intro slot order has_slot has_order later
  rcases order?_next key w p order has_order with old | ⟨_, _, rfl, rfl⟩
  · rcases slot?_next key w p slot has_slot with same | ⟨now, rfl, _⟩
    · exact ordered slot order same old later
    · cases old
  · exact cleared.orders_le

/-- A caller of the identity that has nothing old finds nothing old next. -/
theorem next_late (key : CacheKey) (w : World OrderBook) (p : Passage)
    (cleared : w.Cleared identity slots orders) (ordered : p.Ordered slots orders)
    (same : key.identity = identity) (late : p.Late slots orders) :
    (p.next key w).1.Late slots orders := by
  refine ⟨?_, ?_⟩
  · intro n h
    rcases slot?_next key w p n h with old | ⟨now, rfl, found⟩
    · exact late.slot n old
    · exact (World.cleared_seek w cleared key now).2 n same found
  · intro c h
    rcases client_of_next key w p c h with old | ⟨slot, entry, mine, found, rfl⟩
      | ⟨slot, ticket, order, created, rfl, rfl⟩
    · exact late.client c old
    · exact cleared.entries slot entry (late.slot slot mine) found
    · exact ordered slot order rfl rfl (late.slot slot rfl)

theorem first_late (i : Identity) : (first i).Late slots orders := by
  unfold first
  split <;> exact ⟨nofun, nofun⟩

theorem cleared_undo (w : World OrderBook) (p : Passage)
    (cleared : w.Cleared identity slots orders) : (p.undo w).Cleared identity slots orders := by
  cases p with
  | waiting slot ticket => exact World.cleared_leaveSlot w cleared slot ticket
  | building slot ticket order =>
    exact World.cleared_leaveSlot _ (World.cleared_finish w cleared order .abandoned) slot ticket
  | _ => exact cleared

end Passage

/-! ## Runs -/

namespace Course
variable {identity : Identity} {slots orders callers : Nat}

/-- The identity is cleared of what was there when so many had called, and those of its callers who
came later have nothing of it. -/
structure Cleared (identity : Identity) (slots orders callers : Nat) (c : Course) : Prop where
  callers_le : callers ≤ c.visits.length
  world : c.world.Cleared identity slots orders
  ordered : ∀ v ∈ c.visits, ∀ p, v.place = some p → p.Ordered slots orders
  late : ∀ (k : Nat) (v : Visit), callers ≤ k → c.visits[k]? = some v → v.identity = identity →
    ∀ p, v.place = some p → p.Late slots orders

/-- When an identity has no current slot it is cleared of all that is there: no caller has a slot
beyond those that were made. -/
theorem cleared_of_no_index (c : Course) (sound : c.Sound) (identity : Identity)
    (lost : ∀ e ∈ c.world.cache.index, e.1.identity ≠ identity) :
    c.Cleared identity c.world.cache.slots.length c.world.backend.length c.visits.length := by
  refine ⟨Nat.le_refl _, World.cleared_of_no_index identity c.world lost, ?_, ?_⟩
  · intro v member p place slot order mine _ later
    have made := (sound.visits v member p place).slot slot mine
    have bound := Cache.keyOf?_lt c.world.cache slot v.key made
    omega
  · intro k v later found
    have bound : k < c.visits.length := (List.getElem?_eq_some_iff.mp found).1
    omega

/-- A change of the world that brings nothing back concerns no caller. -/
theorem cleared_of_world (c : Course) (w : World OrderBook)
    (cleared : c.Cleared identity slots orders callers)
    (world : w.Cleared identity slots orders) :
    Cleared identity slots orders callers ⟨w, c.visits⟩ :=
  ⟨cleared.callers_le, world, cleared.ordered, cleared.late⟩

/-- The same if one of the callers gets to another place. -/
theorem cleared_of_set (c : Course) (w : World OrderBook) (k : Nat) (new : Visit)
    (cleared : c.Cleared identity slots orders callers)
    (world : w.Cleared identity slots orders)
    (ordered : ∀ p, new.place = some p → p.Ordered slots orders)
    (late : callers ≤ k → new.identity = identity →
      ∀ p, new.place = some p → p.Late slots orders) :
    Cleared identity slots orders callers ⟨w, c.visits.set k new⟩ := by
  refine ⟨?_, world, ?_, ?_⟩
  · rw [List.length_set]
    exact cleared.callers_le
  · intro v member p place
    rcases List.mem_or_eq_of_mem_set member with old | rfl
    · exact cleared.ordered v old p place
    · exact ordered p place
  · intro j v later found same p place
    rw [List.getElem?_set] at found
    split at found
    · next here =>
      split at found
      · cases found
        subst here
        exact late later same p place
      · cases found
    · exact cleared.late j v later found same p place

theorem cleared_step (c : Course) (m : Move) (cleared : c.Cleared identity slots orders callers) :
    (c.step m).Cleared identity slots orders callers := by
  cases m with
  | call i s =>
    refine ⟨?_, cleared.world, ?_, ?_⟩
    · have before := cleared.callers_le
      simp only [step, List.length_append]
      omega
    · intro v member p place
      rcases List.mem_append.mp member with old | new
      · exact cleared.ordered v old p place
      · cases List.mem_singleton.mp new
        cases place
        exact Passage.ordered_of_order?_none _ (Passage.order?_first i)
    · intro k v later found same p place
      rw [step, List.getElem?_append] at found
      split at found
      · exact cleared.late k v later found same p place
      · cases List.mem_singleton.mp (List.mem_of_getElem? found)
        cases place
        exact Passage.first_late i
  | go k =>
    simp only [step]
    split
    · next i s p found =>
      have before := cleared.ordered _ (List.mem_of_getElem? found) p rfl
      have world := Passage.next_cleared (keyFor i s) c.world p cleared.world before
      refine cleared_of_set c _ k _ cleared world ?_ ?_
      · intro p' place
        cases place
        exact Passage.next_ordered (keyFor i s) c.world p cleared.world before
      · intro later same p' place
        cases place
        exact Passage.next_late (keyFor i s) c.world p cleared.world before same
          (cleared.late k _ later found same p rfl)
    · exact cleared
  | drop k =>
    simp only [step]
    split
    · next i s p found =>
      split
      · refine cleared_of_set c _ k _ cleared (Passage.cleared_undo c.world p cleared.world) ?_ ?_
        · rintro p ⟨⟩
        · rintro - - p ⟨⟩
      · exact cleared
    · exact cleared
  | succeed n =>
    exact cleared_of_world c _ cleared (World.cleared_finish c.world cleared.world n _)
  | fail n e =>
    exact cleared_of_world c _ cleared (World.cleared_finish c.world cleared.world n _)
  | pass d =>
    exact cleared_of_world c _ cleared
      (World.cleared_of_index_subset c.world _ cleared.world rfl rfl (List.Subset.refl _))
  | setWall wall =>
    exact cleared_of_world c _ cleared
      (World.cleared_of_index_subset c.world _ cleared.world rfl rfl (List.Subset.refl _))
  | evict i =>
    exact cleared_of_world c _ cleared
      (World.cleared_of_index_subset c.world _ cleared.world rfl rfl (Cache.index_evict_subset _ _))
  | purge =>
    refine cleared_of_world c _ cleared ?_
    rcases c.world.purge_cases with ended | purged
    · rw [ended]
      exact World.cleared_of_index_subset c.world _ cleared.world rfl rfl (List.Subset.refl _)
    · rw [purged]
      exact World.cleared_of_index_subset c.world _ cleared.world rfl rfl
        (Cache.index_purge_subset _ _ _)

theorem cleared_run (c : Course) (moves : List Move)
    (cleared : c.Cleared identity slots orders callers) :
    (c.run moves).Cleared identity slots orders callers := by
  induction moves generalizing c with
  | nil => exact cleared
  | cons m rest ih => exact ih (c.step m) (cleared_step c m cleared)

/-- A caller that comes when its identity has no current slot gets a client of a later build, if
any. -/
theorem serial_of_no_index (c : Course) (moves : List Move) (sound : c.Sound) (v : Visit)
    (lost : ∀ e ∈ c.world.cache.index, e.1.identity ≠ v.identity) (k : Nat)
    (later : c.visits.length ≤ k) (found : (c.run moves).visits[k]? = some v) (client : Client)
    (place : v.place = some (.finished (.ok client))) :
    c.world.backend.length ≤ client.serial := by
  have cleared := cleared_run c moves (cleared_of_no_index c sound v.identity lost)
  exact (cleared.late k v later found rfl _ place).client client rfl

end Course

namespace Traffic

/-- In every run, a caller that comes after the eviction of its identity gets a client of a build
that was started after the eviction, if it gets one. -/
theorem client_after_evict (ttl maxEntries : Nat) (order : KeyOrder) (wall : Time.Instant)
    (before after : List Move) (k : Nat) (caller : Caller) (client : Client)
    (later : ((start ttl maxEntries order wall).run before).callers.length ≤ k)
    (present : ((start ttl maxEntries order wall).run
      (before ++ .evict caller.identity :: after)).callers[k]? = some caller)
    (returned : caller.result? = some (.ok client)) :
    ((start ttl maxEntries order wall).run before).world.backend.length ≤ client.serial ∧
      ((start ttl maxEntries order wall).run
        (before ++ .evict caller.identity :: after)).world.backend[client.serial]? =
          some ⟨caller.identity, caller.scope.normalized, .succeeded⟩ := by
  rw [run_start] at later present ⊢
  rw [run_start]
  have whole : (Course.start ttl maxEntries order wall).run
      (before ++ .evict caller.identity :: after) =
        (((Course.start ttl maxEntries order wall).run before).step
          (.evict caller.identity)).run after := by
    unfold Course.run
    rw [List.foldl_append, List.foldl_cons]
  rw [whole] at present ⊢
  have sound : ((Course.start ttl maxEntries order wall).run before).Sound :=
    Course.sound_run _ before (Course.sound_start ttl maxEntries order wall)
  generalize (Course.start ttl maxEntries order wall).run before = c at later present sound ⊢
  have evicted : (c.step (.evict caller.identity)).Sound := Course.sound_step c _ sound
  simp only [Course.traffic, List.getElem?_map] at present
  obtain ⟨v, found, rfl⟩ := Option.map_eq_some_iff.mp present
  have place := Visit.place_of_result? v (.ok client) returned
  have lost := Cache.identity_ne_of_mem_evict c.world.cache v.identity
  refine ⟨?_, ?_⟩
  · have early : c.visits.length ≤ k := by simpa [Course.traffic] using later
    exact Course.serial_of_no_index _ after evicted v lost k early found client place
  · obtain ⟨n, rfl, gives⟩ := Course.made_of_finished _ (Course.sound_run _ after evicted) v
      (List.mem_of_getElem? found) client place
    exact gives

def underWay : List Move :=
  .call ⟨.bearer "alice", none⟩ ⟨none⟩ :: List.replicate 7 (.go 0)

/-- The build succeeds, and another caller has a client built anew. -/
def rebuilt : List Move :=
  List.flatten
    [[.call ⟨.bearer "alice", none⟩ ⟨none⟩, .succeed 0], List.replicate 4 (.go 0),
      List.replicate 7 (.go 1), [.succeed 1], List.replicate 4 (.go 1)]

def servedAnew : Caller :=
  ⟨⟨.bearer "alice", none⟩, ⟨none⟩, some (.done (.ok ⟨1, ⟨.bearer "alice", none⟩, ⟨none⟩⟩))⟩

theorem client_after_evict_of_build_under_way :
    ((start 60000 16 .asCame ⟨0, 0⟩).run
      (underWay ++ .evict servedAnew.identity :: rebuilt)).callers[1]? = some servedAnew ∧
        ((start 60000 16 .asCame ⟨0, 0⟩).run underWay).world.backend.length ≤ 1 := by
  have present : ((start 60000 16 .asCame ⟨0, 0⟩).run
      (underWay ++ .evict servedAnew.identity :: rebuilt)).callers[1]? = some servedAnew := by
    rfl
  have later : ((start 60000 16 .asCame ⟨0, 0⟩).run underWay).callers.length ≤ 1 := by
    decide
  have started := client_after_evict 60000 16 .asCame ⟨0, 0⟩ underWay rebuilt 1 servedAnew
    ⟨1, ⟨.bearer "alice", none⟩, ⟨none⟩⟩ later present rfl
  exact ⟨present, started.1⟩

end Traffic
end ClusterGraph
