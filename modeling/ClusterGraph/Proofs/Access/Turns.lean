import ClusterGraph.Proofs.Access.Passage
import ClusterGraph.Proofs.Access.Slots

/-!
# Whose turn it is

At any moment at most one caller builds on behalf of a slot. A caller that queues gets a ticket that
nobody else has. It orders a build only when the slot is empty and held by its ticket, and it holds
the slot until it puts a client into it or leaves it; meanwhile nothing that others do takes the
slot away from it. This is a matter of slots, not of keys: a slot that the index has lost keeps its
holder and its queue.
-/
namespace ClusterGraph

/-- The slot is empty, and it is the turn of a ticket. -/
def Slot.IsTurn (ticket : Nat) (s : Slot) : Prop := s.entry = none ∧ s.holder = some ticket

/-- The ticket may go on in the slot. -/
def Slot.MayGo (ticket : Nat) (s : Slot) : Prop := s.entry ≠ none ∨ s.holder = some ticket

namespace Slot

theorem mayProceed_iff (s : Slot) (ticket : Nat) : s.mayProceed ticket = true ↔ s.MayGo ticket := by
  unfold mayProceed MayGo
  rw [Bool.or_eq_true, Option.isSome_iff_ne_none, beq_iff_eq]

/-- Another caller that joins takes no turn away. -/
theorem isTurn_join (s : Slot) (ticket other : Nat) (h : s.IsTurn ticket) :
    (s.join other).IsTurn ticket := by
  obtain ⟨empty, held⟩ := h
  refine ⟨(s.entry_join other).trans empty, ?_⟩
  unfold join
  rw [held]

theorem mayGo_join (s : Slot) (ticket other : Nat) (h : s.MayGo ticket) :
    (s.join other).MayGo ticket := by
  rcases h with full | held
  · left
    rw [s.entry_join other]
    exact full
  · right
    unfold join
    rw [held]

/-- Another caller that leaves takes no turn away. -/
theorem isTurn_leave (s : Slot) (ticket other : Nat) (different : other ≠ ticket)
    (h : s.IsTurn ticket) : (s.leave other).IsTurn ticket := by
  obtain ⟨empty, held⟩ := h
  refine ⟨(s.entry_leave other).trans empty, ?_⟩
  have not_holder : s.holder ≠ some other := by
    rw [held]
    intro same
    exact different (Option.some.inj same).symm
  unfold leave
  rw [if_neg not_holder]
  exact held

theorem mayGo_leave (s : Slot) (ticket other : Nat) (different : other ≠ ticket)
    (h : s.MayGo ticket) : (s.leave other).MayGo ticket := by
  by_cases empty : s.entry = none
  · have held : s.holder = some ticket := h.resolve_left fun full => full empty
    exact Or.inr (s.isTurn_leave ticket other different ⟨empty, held⟩).2
  · left
    rw [s.entry_leave other]
    exact empty

end Slot

/-! ## Slots of the cache -/

namespace Cache

/-- A slot that was made is such. -/
def At (c : Cache) (n : Nat) (P : Slot → Prop) : Prop := ∃ s, c.slots[n]? = some s ∧ P s

theorem at_of_slots (c c' : Cache) (same : c'.slots = c.slots) (n : Nat) (P : Slot → Prop)
    (h : c.At n P) : c'.At n P := by
  unfold At
  rw [same]
  exact h

theorem at_modify (c : Cache) (n m : Nat) (f : Slot → Slot) (P : Slot → Prop) (h : c.At n P)
    (keeps : m = n → ∀ s, P s → P (f s)) : (c.modify m f).At n P := by
  obtain ⟨s, found, holds⟩ := h
  by_cases same : m = n
  · refine ⟨f s, ?_, keeps same s holds⟩
    simp [modify, same, found]
  · refine ⟨s, ?_, holds⟩
    simp [modify, same, found]

theorem at_makeSlot (c : Cache) (key : CacheKey) (n : Nat) (P : Slot → Prop) (h : c.At n P) :
    (c.makeSlot key).1.At n P := by
  obtain ⟨s, found, holds⟩ := h
  have bound : n < c.slots.length := (List.getElem?_eq_some_iff.mp found).1
  refine ⟨s, ?_, holds⟩
  rw [slots_makeSlot, List.getElem?_append_left bound]
  exact found

/-- The turn of a slot is that of one ticket. -/
theorem isTurn_unique (c : Cache) (n ticket other : Nat) (h : c.At n (Slot.IsTurn ticket))
    (h' : c.At n (Slot.IsTurn other)) : ticket = other := by
  obtain ⟨s, found, _, held⟩ := h
  obtain ⟨s', found', _, held'⟩ := h'
  cases Option.some.inj (found.symm.trans found')
  exact Option.some.inj (held.symm.trans held')

theorem held?_of_isTurn (c : Cache) (n ticket : Nat) (h : c.At n (Slot.IsTurn ticket)) :
    c.held? n = none := by
  obtain ⟨s, found, empty, _⟩ := h
  unfold held?
  rw [found]
  exact empty

end Cache

theorem World.mayProceed_iff (w : World OrderBook) (n ticket : Nat) :
    w.mayProceed n ticket = true ↔ w.cache.At n (Slot.MayGo ticket) := by
  unfold mayProceed Cache.At
  cases w.cache.slots[n]? with
  | none => simp
  | some s => simp [s.mayProceed_iff ticket]

/-! ## Callers -/

namespace Passage

def ticket? : Passage → Option Nat
  | checking _ ticket => some ticket
  | waiting _ ticket => some ticket
  | proceeding _ ticket => some ticket
  | ordering _ ticket => some ticket
  | building _ ticket _ => some ticket
  | collecting _ ticket _ => some ticket
  | stamping _ ticket _ => some ticket
  | settling _ ticket _ _ => some ticket
  | leaving _ ticket _ => some ticket
  | _ => none

/-- The slot whose turn a caller has, and by which ticket. -/
def turn? : Passage → Option (Nat × Nat)
  | ordering slot ticket => some (slot, ticket)
  | building slot ticket _ => some (slot, ticket)
  | collecting slot ticket _ => some (slot, ticket)
  | stamping slot ticket _ => some (slot, ticket)
  | settling slot ticket _ _ => some (slot, ticket)
  | leaving slot ticket _ => some (slot, ticket)
  | _ => none

theorem ticket?_first (identity : Identity) : (first identity).ticket? = none := by
  unfold first
  split <;> rfl

theorem ticket_of_turn (p : Passage) (slot ticket : Nat) (h : p.turn? = some (slot, ticket)) :
    p.ticket? = some ticket := by
  cases p <;> cases h <;> rfl

/-- A ticket was handed out; whoever builds, or is done with building, has the turn of its slot; and
whoever proceeds may. -/
structure Orderly (w : World OrderBook) (p : Passage) : Prop where
  fresh : ∀ ticket, p.ticket? = some ticket → ticket < w.tickets
  turn : ∀ slot ticket, p.turn? = some (slot, ticket) → w.cache.At slot (Slot.IsTurn ticket)
  go : ∀ slot ticket, p = proceeding slot ticket → w.cache.At slot (Slot.MayGo ticket)

end Passage

/-- A change concerns neither the turn nor the way of a ticket. -/
structure World.Spares (ticket : Nat) (w w' : World OrderBook) : Prop where
  turn : ∀ n, w.cache.At n (Slot.IsTurn ticket) → w'.cache.At n (Slot.IsTurn ticket)
  go : ∀ n, w.cache.At n (Slot.MayGo ticket) → w'.cache.At n (Slot.MayGo ticket)

namespace World

theorem spares_of_slots (ticket : Nat) (w w' : World OrderBook)
    (same : w'.cache.slots = w.cache.slots) : w.Spares ticket w' where
  turn n h := Cache.at_of_slots w.cache w'.cache same n _ h
  go n h := Cache.at_of_slots w.cache w'.cache same n _ h

theorem spares_leaveSlot (ticket other : Nat) (w : World OrderBook) (slot : Nat)
    (different : other ≠ ticket) : w.Spares ticket (w.leaveSlot slot other) where
  turn n h := Cache.at_modify w.cache n slot _ _ h fun _ s => s.isTurn_leave ticket other different
  go n h := Cache.at_modify w.cache n slot _ _ h fun _ s => s.mayGo_leave ticket other different

theorem spares_enter (ticket : Nat) (w : World OrderBook) (slot : Nat) :
    w.Spares ticket (w.enter slot).2 := by
  unfold enter
  split
  · exact spares_of_slots ticket w w rfl
  · exact ⟨fun n h => Cache.at_modify w.cache n slot _ _ h fun _ s => s.isTurn_join ticket _,
      fun n h => Cache.at_modify w.cache n slot _ _ h fun _ s => s.mayGo_join ticket _⟩

/-- A client is put into a slot by the caller whose turn it is; everybody may go on then. -/
theorem spares_settleSlot (ticket other : Nat) (w : World OrderBook) (slot : Nat)
    (entry : CacheEntry) (mine : w.cache.At slot (Slot.IsTurn other)) (different : other ≠ ticket) :
    w.Spares ticket (w.settleSlot slot entry) where
  turn n h := by
    refine Cache.at_modify w.cache n slot _ _ h ?_
    intro same
    subst same
    exact absurd (Cache.isTurn_unique w.cache slot other ticket mine h) different
  go n h := Cache.at_modify w.cache n slot _ _ h fun _ _ _ => Or.inl nofun

theorem spares_seek (ticket : Nat) (w : World OrderBook) (key : CacheKey) (now : Nat) :
    w.Spares ticket (w.seek key now).2 := by
  rcases w.seek_cases key now with ended | ⟨n, found, _⟩ | made
  · rw [ended]
    exact spares_of_slots ticket w _ rfl
  · rw [found]
    exact spares_of_slots ticket w w rfl
  · rw [made]
    exact ⟨fun n h => Cache.at_makeSlot w.cache key n _ h,
      fun n h => Cache.at_makeSlot w.cache key n _ h⟩

end World

namespace Passage

/-- What a caller does next spares the tickets of all others. -/
theorem next_spares (ticket : Nat) (key : CacheKey) (w : World OrderBook) (p : Passage)
    (orderly : p.Orderly w) (different : p.ticket? ≠ some ticket) :
    w.Spares ticket (p.next key w).2 := by
  have other (t : Nat) (mine : p.ticket? = some t) : t ≠ ticket := by
    intro same
    exact different (same ▸ mine)
  cases p with
  | seeking now => exact World.spares_seek ticket w key now
  | entering slot => exact World.spares_enter ticket w slot
  | settling slot t order created =>
    exact World.spares_settleSlot ticket t w slot _ (orderly.turn slot t rfl) (other t rfl)
  | leaving slot t e => exact World.spares_leaveSlot ticket t w slot (other t rfl)
  | sweeping slot e => exact World.spares_of_slots ticket w _ (Cache.slots_sweep _ _ _)
  | _ => exact World.spares_of_slots ticket w _ rfl

/-- A caller keeps its ticket, or has just been given one that nobody has. -/
theorem ticket?_next (key : CacheKey) (w : World OrderBook) (p : Passage) (ticket : Nat)
    (h : (p.next key w).1.ticket? = some ticket) :
    p.ticket? = some ticket ∨ (ticket = w.tickets ∧ ticket < (p.next key w).2.tickets) := by
  cases p with
  | entering slot =>
    cases found : w.cache.held? slot with
    | some entry =>
      simp only [next, World.enter, found] at h
      cases h
    | none =>
      simp only [next, World.enter, found] at h ⊢
      cases h
      exact Or.inr ⟨rfl, Nat.lt_succ_self _⟩
  | checking slot t | waiting slot t | building slot t order | collecting slot t order =>
    simp only [next] at h
    split at h <;> exact Or.inl h
  | proceeding slot t =>
    simp only [next] at h
    split at h
    · cases h
    · exact Or.inl h
  | arriving | seeking now =>
    simp only [next] at h
    split at h <;> cases h
  | ordering slot t | stamping slot t order | finished r | stopped => exact Or.inl h
  | _ => cases h

/-- A caller keeps its turn, and leaves the cache alone; or it has just found its slot empty. -/
theorem turn?_next (key : CacheKey) (w : World OrderBook) (p : Passage) (slot ticket : Nat)
    (h : (p.next key w).1.turn? = some (slot, ticket)) :
    (p.next key w).2.cache = w.cache ∧
      (p.turn? = some (slot, ticket) ∨
        (p = proceeding slot ticket ∧ w.cache.held? slot = none)) := by
  cases p with
  | proceeding s t =>
    simp only [next] at h
    split at h
    · cases h
    · next empty =>
      cases h
      exact ⟨rfl, Or.inr ⟨rfl, empty⟩⟩
  | building s t order | collecting s t order =>
    simp only [next] at h
    split at h <;> exact ⟨rfl, Or.inl h⟩
  | ordering s t | stamping s t order => exact ⟨rfl, Or.inl h⟩
  | arriving | seeking now | entering s | checking s t | waiting s t =>
    simp only [next] at h
    split at h <;> cases h
  | _ => cases h

/-- Whoever proceeds has just seen that it may. -/
theorem mayProceed_of_next (key : CacheKey) (w : World OrderBook) (p : Passage)
    (slot ticket : Nat) (h : (p.next key w).1 = proceeding slot ticket) :
    (p.next key w).2.cache = w.cache ∧ w.mayProceed slot ticket = true := by
  cases p with
  | checking s t | waiting s t =>
    simp only [next] at h
    split at h
    · next may =>
      cases h
      exact ⟨rfl, may⟩
    · cases h
  | arriving | seeking now | entering s | proceeding s t | building s t order
  | collecting s t order =>
    simp only [next] at h
    split at h <;> cases h
  | _ => cases h

theorem tickets_next (key : CacheKey) (w : World OrderBook) (p : Passage) :
    w.tickets ≤ (p.next key w).2.tickets := by
  cases p with
  | entering slot =>
    simp only [next, World.enter]
    split
    · exact Nat.le_refl _
    · exact Nat.le_succ _
  | seeking now =>
    simp only [next, World.seek]
    split <;> exact Nat.le_refl _
  | _ => exact Nat.le_refl _

/-- A caller stays orderly whatever it does next. -/
theorem next_orderly (key : CacheKey) (w : World OrderBook) (p : Passage) (orderly : p.Orderly w) :
    (p.next key w).1.Orderly (p.next key w).2 := by
  refine ⟨?_, ?_, ?_⟩
  · intro t h
    rcases ticket?_next key w p t h with old | ⟨_, new⟩
    · exact Nat.lt_of_lt_of_le (orderly.fresh t old) (tickets_next key w p)
    · exact new
  · intro slot t h
    obtain ⟨same, old | ⟨rfl, empty⟩⟩ := turn?_next key w p slot t h
    · rw [same]
      exact orderly.turn slot t old
    · obtain ⟨s, found, may⟩ := orderly.go slot t rfl
      have no_entry : s.entry = none := by simpa [Cache.held?, found] using empty
      exact ⟨s, found, no_entry, may.resolve_left fun full => full no_entry⟩
  · intro slot t h
    obtain ⟨same, may⟩ := mayProceed_of_next key w p slot t h
    rw [same]
    exact (w.mayProceed_iff slot t).mp may

/-- A caller that is dropped spares the others. -/
theorem undo_spares (ticket : Nat) (w : World OrderBook) (p : Passage)
    (different : p.ticket? ≠ some ticket) : w.Spares ticket (p.undo w) := by
  have other (t : Nat) (mine : p.ticket? = some t) : t ≠ ticket := by
    intro same
    exact different (same ▸ mine)
  cases p with
  | waiting slot t => exact World.spares_leaveSlot ticket t w slot (other t rfl)
  | building slot t order =>
    have spares := World.spares_leaveSlot ticket t w slot (other t rfl)
    exact ⟨spares.turn, spares.go⟩
  | _ => exact World.spares_of_slots ticket w w rfl

theorem tickets_undo (w : World OrderBook) (p : Passage) : w.tickets ≤ (p.undo w).tickets := by
  cases p <;> exact Nat.le_refl _

/-- A caller whose ticket is spared stays orderly. -/
theorem orderly_of_spares (w w' : World OrderBook) (p : Passage) (orderly : p.Orderly w)
    (handed : w.tickets ≤ w'.tickets)
    (spares : ∀ ticket, p.ticket? = some ticket → w.Spares ticket w') : p.Orderly w' where
  fresh t h := Nat.lt_of_lt_of_le (orderly.fresh t h) handed
  turn n t h := (spares t (ticket_of_turn p n t h)).turn n (orderly.turn n t h)
  go n t h := (spares t (by rw [h]; rfl)).go n (orderly.go n t h)

end Passage

/-! ## Runs -/

namespace Course

def ticketOf? (c : Course) (k : Nat) : Option Nat :=
  ((c.visits[k]?).bind Visit.place).bind Passage.ticket?

/-- Every caller is orderly, and no two have the same ticket. -/
structure Orderly (c : Course) : Prop where
  visits : ∀ v ∈ c.visits, ∀ p, v.place = some p → p.Orderly c.world
  distinct : ∀ j k ticket, c.ticketOf? j = some ticket → c.ticketOf? k = some ticket → j = k

theorem ticketOf?_eq (c : Course) (k : Nat) (v : Visit) (p : Passage)
    (found : c.visits[k]? = some v) (place : v.place = some p) : c.ticketOf? k = p.ticket? :=
  numberOf?_of_place Passage.ticket? c k v p found place

theorem orderly_start (ttl maxEntries : Nat) (order : KeyOrder) (wall : Time.Instant) :
    (start ttl maxEntries order wall).Orderly := by
  refine ⟨?_, ?_⟩
  · intro v member
    cases member
  · intro j k ticket h
    cases h

/-- A ticket of a caller was handed out. -/
theorem ticketOf?_lt (c : Course) (orderly : c.Orderly) (k ticket : Nat)
    (h : c.ticketOf? k = some ticket) : ticket < c.world.tickets := by
  obtain ⟨v, p, found, place, mine⟩ := place_of_numberOf? Passage.ticket? c k ticket h
  exact (orderly.visits v (List.mem_of_getElem? found) p place).fresh ticket mine

/-- A change that spares everybody. -/
theorem orderly_of_world (c : Course) (w : World OrderBook) (orderly : c.Orderly)
    (handed : c.world.tickets ≤ w.tickets) (spares : ∀ ticket, c.world.Spares ticket w) :
    Orderly ⟨w, c.visits⟩ where
  visits v member p place :=
    Passage.orderly_of_spares c.world w p (orderly.visits v member p place) handed
      fun ticket _ => spares ticket
  distinct := orderly.distinct

/-- A caller that gets to another place, with its own ticket or the next one, and spares the others.
-/
theorem orderly_of_set (c : Course) (w : World OrderBook) (k : Nat) (new : Visit)
    (orderly : c.Orderly) (handed : c.world.tickets ≤ w.tickets)
    (spares : ∀ ticket, c.ticketOf? k ≠ some ticket → c.world.Spares ticket w)
    (there : ∀ p, new.place = some p → p.Orderly w)
    (keeps : ∀ ticket, new.place.bind Passage.ticket? = some ticket →
      c.ticketOf? k = some ticket ∨ ticket = c.world.tickets) :
    Orderly ⟨w, c.visits.set k new⟩ := by
  refine ⟨?_, distinct_of_set Passage.ticket? c w k new c.world.tickets orderly.distinct
    (ticketOf?_lt c orderly) keeps⟩
  intro v member p place
  obtain ⟨j, found⟩ := List.mem_iff_getElem?.mp member
  rw [List.getElem?_set] at found
  split at found
  · split at found
    · cases found
      exact there p place
    · cases found
  · next elsewhere =>
    refine Passage.orderly_of_spares c.world w p
      (orderly.visits v (List.mem_of_getElem? found) p place) handed ?_
    intro ticket mine
    refine spares ticket ?_
    intro theirs
    have own : c.ticketOf? j = some ticket := (ticketOf?_eq c j v p found place).trans mine
    exact elsewhere (orderly.distinct k j ticket theirs own)

theorem orderly_step (c : Course) (m : Move) (orderly : c.Orderly) : (c.step m).Orderly := by
  have quiet (w : World OrderBook) (slots : w.cache.slots = c.world.cache.slots)
      (tickets : w.tickets = c.world.tickets) : Orderly ⟨w, c.visits⟩ :=
    orderly_of_world c w orderly (Nat.le_of_eq tickets.symm) fun ticket =>
      World.spares_of_slots ticket c.world w slots
  cases m with
  | call identity scope =>
    have ticket_call := c.numberOf?_of_call Passage.ticket? identity scope
      (Passage.ticket?_first identity)
    refine ⟨?_, ?_⟩
    · intro v member p place
      rcases List.mem_append.mp member with old | new
      · exact orderly.visits v old p place
      · cases List.mem_singleton.mp new
        cases place
        unfold Passage.first
        split <;> exact ⟨by rintro ticket ⟨⟩, by rintro slot ticket ⟨⟩, by rintro slot ticket ⟨⟩⟩
    · intro i j ticket hi hj
      exact orderly.distinct i j ticket (ticket_call i ticket hi) (ticket_call j ticket hj)
  | go k =>
    simp only [step]
    split
    · next identity scope p found =>
      have mine := orderly.visits _ (List.mem_of_getElem? found) p rfl
      have own := ticketOf?_eq c k _ p found rfl
      refine orderly_of_set c _ k _ orderly (Passage.tickets_next _ c.world p) ?_ ?_ ?_
      · intro ticket different
        rw [own] at different
        exact Passage.next_spares ticket _ c.world p mine different
      · intro p' place
        cases place
        exact Passage.next_orderly _ c.world p mine
      · intro ticket h
        rw [own]
        rcases Passage.ticket?_next _ c.world p ticket h with old | ⟨new, _⟩
        · exact Or.inl old
        · exact Or.inr new
    · exact orderly
  | drop k =>
    simp only [step]
    split
    · next identity scope p found =>
      split
      · have own := ticketOf?_eq c k _ p found rfl
        refine orderly_of_set c _ k _ orderly (Passage.tickets_undo c.world p) ?_ ?_ ?_
        · intro ticket different
          rw [own] at different
          exact Passage.undo_spares ticket c.world p different
        · rintro p ⟨⟩
        · rintro ticket ⟨⟩
      · exact orderly
    · exact orderly
  | succeed n => exact quiet _ rfl rfl
  | fail n e => exact quiet _ rfl rfl
  | pass d => exact quiet _ rfl rfl
  | setWall wall => exact quiet _ rfl rfl
  | evict identity => exact quiet _ rfl rfl
  | purge =>
    simp only [step]
    rcases c.world.purge_cases with ended | purged
    · rw [ended]
      exact quiet _ rfl rfl
    · rw [purged]
      exact quiet _ rfl rfl

theorem orderly_run (c : Course) (moves : List Move) (orderly : c.Orderly) :
    (c.run moves).Orderly := by
  induction moves generalizing c with
  | nil => exact orderly
  | cons m rest ih => exact ih (c.step m) (orderly_step c m orderly)

/-- The turn of a slot is that of one caller. -/
theorem turn_unique (c : Course) (orderly : c.Orderly) (j k : Nat) (v u : Visit) (p q : Passage)
    (slot ticket other : Nat) (found : c.visits[j]? = some v) (place : v.place = some p)
    (turn : p.turn? = some (slot, ticket)) (found' : c.visits[k]? = some u)
    (place' : u.place = some q) (turn' : q.turn? = some (slot, other)) : j = k := by
  have mine := (orderly.visits v (List.mem_of_getElem? found) p place).turn slot ticket turn
  have theirs := (orderly.visits u (List.mem_of_getElem? found') q place').turn slot other turn'
  have same := Cache.isTurn_unique c.world.cache slot ticket other mine theirs
  subst same
  refine orderly.distinct j k ticket ?_ ?_
  · exact (ticketOf?_eq c j v p found place).trans (Passage.ticket_of_turn p slot ticket turn)
  · exact (ticketOf?_eq c k u q found' place').trans (Passage.ticket_of_turn q slot ticket turn')

end Course
end ClusterGraph
