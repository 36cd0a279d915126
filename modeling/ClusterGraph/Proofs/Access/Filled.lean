import ClusterGraph.Proofs.Access.Changes

/-!
# Caches that one caller uses at a time

Between two callers every current slot holds a client. While a caller builds, its own slot, which is
a new one, is empty; all others are as before. When it is done, its slot is filled, or was dropped.
-/
namespace ClusterGraph
namespace Cache

variable {good : CacheKey → CacheEntry → Prop} {c : Cache}

theorem held?_modify_of_ne (c : Cache) (n m : Nat) (f : Slot → Slot) (other : n ≠ m) :
    (c.modify n f).held? m = c.held? m := by
  unfold held? modify
  rw [List.getElem?_modify]
  simp [other]

/-- Every current slot holds a client that will do for its key. -/
structure Filled (good : CacheKey → CacheEntry → Prop) (c : Cache) : Prop where
  unique : c.IsUnique
  held : ∀ key n, (key, n) ∈ c.index → ∃ entry, c.held? n = some entry ∧ good key entry

theorem filled_empty (ttl maxEntries : Nat) (order : KeyOrder) :
    (empty ttl maxEntries order).Filled good :=
  ⟨fun _ _ _ => nofun, fun _ _ => nofun⟩

theorem Filled.mono {good' : CacheKey → CacheEntry → Prop} (filled : c.Filled good)
    (still : ∀ key entry, good key entry → good' key entry) : c.Filled good' := by
  refine ⟨filled.unique, ?_⟩
  intro key n member
  obtain ⟨entry, held, fine⟩ := filled.held key n member
  exact ⟨entry, held, still key entry fine⟩

/-- A cache that has only lost slots is filled if it was. -/
theorem Filled.lose (filled : c.Filled good) (c' : Cache) (slots : c'.slots = c.slots)
    (fewer : c'.index ⊆ c.index) : c'.Filled good := by
  refine ⟨isUnique_of_subset c c' filled.unique fewer, ?_⟩
  intro key n member
  unfold held?
  rw [slots]
  exact filled.held key n (fewer member)

/-- One slot is current and empty, and all other current slots are filled. -/
structure Opens (good : CacheKey → CacheEntry → Prop) (n : Nat) (s : Slot) (c : Cache) : Prop where
  unique : c.IsUnique
  slot : c.slots[n]? = some s
  empty : s.entry = none
  current : (s.key, n) ∈ c.index
  others : ∀ key m, (key, m) ∈ c.index → key ≠ s.key →
    ∃ entry, c.held? m = some entry ∧ good key entry

theorem Opens.held?_eq_none (n : Nat) (s : Slot) (opens : c.Opens good n s) :
    c.held? n = none := by
  simp [held?, opens.slot, opens.empty]

theorem opens_makeSlot (filled : c.Filled good) (key : CacheKey) :
    (c.makeSlot key).1.Opens good c.slots.length (Slot.fresh key) where
  unique := c.isUnique_makeSlot key filled.unique
  slot := by simp
  empty := rfl
  current := c.mem_makeSlot key filled.unique _ (Or.inr rfl)
  others := by
    intro k m member other
    rw [held?_makeSlot]
    rcases c.index_makeSlot key (k, m) member with old | new
    · exact filled.held k m old
    · exact absurd (congrArg Prod.fst new) other

/-- A change to the empty slot leaves the others as they are. -/
theorem Opens.modify (n : Nat) (s : Slot) (opens : c.Opens good n s) (f : Slot → Slot)
    (key : ∀ s, (f s).key = s.key) (entry : ∀ s, (f s).entry = s.entry) :
    (c.modify n f).Opens good n (f s) where
  unique := opens.unique
  slot := by simp [Cache.modify, opens.slot]
  empty := (entry s).trans opens.empty
  current := by
    rw [key s]
    exact opens.current
  others := by
    intro k m member other
    rw [held?_modify c n m f entry]
    rw [key s] at other
    exact opens.others k m member other

/-- The empty slot gets a client that will do. -/
theorem Opens.settle (n : Nat) (s : Slot) (opens : c.Opens good n s) (entry : CacheEntry)
    (fine : good s.key entry) : (c.modify n (·.settle entry)).Filled good := by
  refine ⟨opens.unique, ?_⟩
  intro key m member
  by_cases mine : key = s.key
  · subst mine
    cases opens.unique _ n m opens.current member
    have bound := (List.getElem?_eq_some_iff.mp opens.slot).1
    exact ⟨entry, held?_settle_self c n entry bound, fine⟩
  · obtain ⟨held, there, fine⟩ := opens.others key m member mine
    have other : n ≠ m := by
      intro same
      rw [← same, opens.held?_eq_none] at there
      cases there
    exact ⟨held, (held?_modify_of_ne c n m _ other).trans there, fine⟩

/-- The empty slot is dropped. -/
theorem Opens.sweep (n : Nat) (s : Slot) (opens : c.Opens good n s) :
    (c.sweep s.key n).Filled good := by
  have current := c.find?_of_mem opens.unique s.key n opens.current
  unfold Cache.sweep
  rw [if_pos ⟨current, Option.isNone_iff_eq_none.mpr opens.held?_eq_none⟩]
  refine ⟨isUnique_of_subset c _ opens.unique (index_drop_subset c s.key), ?_⟩
  intro key m left
  have kept := List.mem_filter.mp left
  exact opens.others key m kept.1 (by simpa using kept.2)

/-- In a filled cache a key has a client, or a slot is made for it. -/
theorem slotFor_of_filled (filled : c.Filled good) (key : CacheKey) (now : Nat)
    (wall : Time.Instant) :
    (∃ n entry, c.slotFor key now wall = (c, n) ∧ c.held? n = some entry ∧ good key entry) ∨
      c.slotFor key now wall = c.makeSlot key := by
  rcases c.slotFor_cases key now wall with ⟨n, found, member⟩ | made
  · obtain ⟨entry, held, fine⟩ := filled.held key n member
    exact Or.inl ⟨n, entry, found, held, fine⟩
  · exact Or.inr made

/-- In a filled cache the clock reaches the end of every client, if it reaches that of the client
that was put into its slot last. -/
theorem Filled.within (filled : c.Filled good) (last : Nat)
    (before : ∀ key entry, good key entry → entry.created ≤ last)
    (reached : last + c.ttl ≤ clockEnd) (e : CacheKey × Nat) (current : e ∈ c.index)
    (entry : CacheEntry) (held : c.held? e.2 = some entry) : entry.created + c.ttl ≤ clockEnd := by
  obtain ⟨_, same, fine⟩ := filled.held e.1 e.2 current
  cases held.symm.trans same
  have early := before e.1 entry fine
  omega

theorem outlivesClock_of_filled (filled : c.Filled good) (key : CacheKey) (last : Nat)
    (before : ∀ key entry, good key entry → entry.created ≤ last)
    (reached : last + c.ttl ≤ clockEnd) : c.outlivesClock key = false :=
  outlivesClock_eq_false fun n entry found held =>
    filled.within last before reached (key, n) (c.mem_index_of_find? key n found) entry held

end Cache
end ClusterGraph
