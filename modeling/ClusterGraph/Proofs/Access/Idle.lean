import ClusterGraph.Proofs.Access.Changes

/-!
# Caches that are at rest for a key

Nobody is in the current slot of a key. The slot is empty, or holds a client for the scope of the
key. Whoever comes next finds a client, or an empty slot that is its own to fill; filling it, or
dropping it again, leaves the cache at rest.
-/
namespace ClusterGraph
namespace Cache
variable {c : Cache} {key : CacheKey} {now n : Nat}

/-- Nobody is in the current slot of a key, and its client, if it has one, was put there by now. -/
structure Idle (key : CacheKey) (now : Nat) (c : Cache) : Prop where
  unique : c.IsUnique
  slot : ∀ n, (key, n) ∈ c.index → ∃ client?, c.slots[n]? = some ⟨key, client?, none, []⟩ ∧
    ∀ entry, client? = some entry → entry.client.scope = key.scope ∧ entry.created ≤ now

/-- The current slot of a key is empty, and nobody is in it. -/
structure Vacant (key : CacheKey) (n : Nat) (c : Cache) : Prop where
  unique : c.IsUnique
  current : (key, n) ∈ c.index
  slot : c.slots[n]? = some (Slot.fresh key)

theorem idle_empty (ttl maxEntries : Nat) (order : KeyOrder) (key : CacheKey) (now : Nat) :
    (empty ttl maxEntries order).Idle key now :=
  ⟨fun _ _ _ => nofun, fun _ => nofun⟩

theorem Idle.lose (idle : c.Idle key now) (c' : Cache) (slots : c'.slots = c.slots)
    (fewer : c'.index ⊆ c.index) : c'.Idle key now := by
  refine ⟨isUnique_of_subset c c' idle.unique fewer, ?_⟩
  intro n member
  rw [slots]
  exact idle.slot n (fewer member)

theorem Idle.later (idle : c.Idle key now) {now' : Nat} (after : now ≤ now') :
    c.Idle key now' := by
  refine ⟨idle.unique, fun n member => ?_⟩
  obtain ⟨client?, slot, fine⟩ := idle.slot n member
  refine ⟨client?, slot, fun entry held => ?_⟩
  exact ⟨(fine entry held).1, Nat.le_trans (fine entry held).2 after⟩

theorem Vacant.held?_eq_none (vacant : c.Vacant key n) : c.held? n = none := by
  simp [held?, vacant.slot, Slot.fresh]

theorem Vacant.find?_eq (vacant : c.Vacant key n) : c.find? key = some n :=
  c.find?_of_mem vacant.unique key n vacant.current

theorem vacant_makeSlot (unique : c.IsUnique) (key : CacheKey) :
    (c.makeSlot key).1.Vacant key c.slots.length where
  unique := c.isUnique_makeSlot key unique
  current := c.mem_makeSlot key unique _ (.inr rfl)
  slot := by simp

/-- There is a client under the key that does not go stale yet. -/
def serves (c : Cache) (key : CacheKey) (now : Nat) (wall : Time.Instant) : Bool :=
  match (c.find? key).bind fun n => c.slots[n]? with
  | some s => s.entry.isSome && !s.isStale c.ttl now wall
  | none => false

/-- What a caller finds: a client that does not go stale yet, or a slot to fill, which may have been
made for it. -/
theorem Idle.slotFor (idle : c.Idle key now) (wall : Time.Instant) :
    (∃ n entry, c.slotFor key now wall = (c, n) ∧ c.held? n = some entry ∧
      entry.client.scope = key.scope ∧ c.serves key now wall = true) ∨
    ∃ c' n, c.slotFor key now wall = (c', n) ∧ c'.Vacant key n ∧ c'.ttl = c.ttl ∧
      c.serves key now wall = false := by
  have made : (c.makeSlot key).1.ttl = c.ttl := Change.ttl_eq c _ (.make key)
  unfold Cache.slotFor serves
  cases found : c.find? key with
  | none => exact .inr ⟨_, _, rfl, vacant_makeSlot idle.unique key, made, rfl⟩
  | some n =>
    have current := c.mem_index_of_find? key n found
    obtain ⟨client?, slot, fine⟩ := idle.slot n current
    simp only [Option.bind_some, slot]
    rcases client? with _ | entry
    · refine .inr ⟨c, n, rfl, ⟨idle.unique, current, slot⟩, rfl, rfl⟩
    · split
      · next stale => exact .inr ⟨_, _, rfl, vacant_makeSlot idle.unique key, made, by simp [stale]⟩
      · next fresh =>
        refine .inl ⟨n, entry, rfl, by simp [held?, slot], (fine entry rfl).1, by simp [fresh]⟩

/-- The clock reaches the end of every client if it reaches that of one that is put in now. -/
theorem Idle.outlivesClock (idle : c.Idle key now) (reached : now + c.ttl ≤ clockEnd) :
    c.outlivesClock key = false := by
  refine outlivesClock_eq_false fun n entry found held => ?_
  obtain ⟨client?, slot, fine⟩ := idle.slot n (c.mem_index_of_find? key n found)
  have early := (fine entry (by simpa [held?, slot] using held)).2
  omega

/-- The caller that has queued in a vacant slot is the one to go on. -/
theorem Vacant.join (vacant : c.Vacant key n) (ticket : Nat) :
    (c.modify n (·.join ticket)).slots[n]? = some ⟨key, none, some ticket, []⟩ := by
  simp [modify, vacant.slot, Slot.fresh, Slot.join]

/-- A client that is put into the slot is there for the next caller. -/
theorem Vacant.settle (vacant : c.Vacant key n) (ticket : Nat) (client : Client)
    (scope : client.scope = key.scope) :
    ((c.modify n (·.join ticket)).modify n (·.settle ⟨client, now⟩)).Idle key now := by
  refine ⟨vacant.unique, ?_⟩
  intro m member
  cases vacant.unique key n m vacant.current member
  refine ⟨some ⟨client, now⟩, ?_, ?_⟩
  · simp [modify, vacant.slot, Slot.fresh, Slot.join, Slot.settle]
  · rintro _ ⟨⟩
    exact ⟨scope, Nat.le_refl _⟩

/-- The caller that gives up leaves the slot as it was. -/
theorem Vacant.leave (vacant : c.Vacant key n) (ticket : Nat) :
    ((c.modify n (·.join ticket)).modify n (·.leave ticket)).Idle key now := by
  refine ⟨vacant.unique, fun m member => ?_⟩
  cases vacant.unique key n m vacant.current member
  refine ⟨none, ?_, nofun⟩
  simp [modify, vacant.slot, Slot.fresh, Slot.join, Slot.leave]

/-- A slot that stays empty is dropped. -/
theorem Vacant.sweep (vacant : c.Vacant key n) (ticket : Nat) (wall : Time.Instant) :
    (((c.modify n (·.join ticket)).modify n (·.leave ticket)).sweep key n).Idle key now ∧
      (((c.modify n (·.join ticket)).modify n (·.leave ticket)).sweep key n).serves key now wall =
        false := by
  have empty : ((c.modify n (·.join ticket)).modify n (·.leave ticket)).held? n = none := by
    simp [vacant.held?_eq_none]
  have found : ((c.modify n (·.join ticket)).modify n (·.leave ticket)).find? key = some n :=
    vacant.find?_eq
  unfold Cache.sweep
  rw [if_pos ⟨found, Option.isNone_iff_eq_none.mpr empty⟩]
  have absent : ∀ m, (key, m) ∉ (((c.modify n (·.join ticket)).modify n
      (·.leave ticket)).drop key).index := by
    intro m member
    have different := (List.mem_filter.mp member).2
    simp at different
  refine ⟨⟨isUnique_of_subset c _ vacant.unique (index_drop_subset _ key), ?_⟩, ?_⟩
  · intro m member
    exact absurd member (absent m)
  · unfold serves
    cases again : (((c.modify n (·.join ticket)).modify n (·.leave ticket)).drop key).find? key with
    | none => rfl
    | some m => exact absurd (Cache.mem_index_of_find? _ key m again) (absent m)

end Cache
end ClusterGraph
