import Mathlib.Data.List.MinMax
import Mathlib.Data.Prod.Lex
import ClusterGraph.Access.Acquire

/-!
# What the operations of the cache do to its slots

A slot never loses its key, and only `settle` puts a client into it. Every operation but the making
of a slot can at most drop entries of the index, and keeping the bound costs no empty slot. What is
said here of `makeSlot` and `slotFor` is all that is used of them elsewhere.
-/
namespace ClusterGraph

namespace Slot

@[simp] theorem key_join (s : Slot) (ticket : Nat) : (s.join ticket).key = s.key := by
  unfold join
  split <;> rfl

@[simp] theorem entry_join (s : Slot) (ticket : Nat) : (s.join ticket).entry = s.entry := by
  unfold join
  split <;> rfl

@[simp] theorem key_leave (s : Slot) (ticket : Nat) : (s.leave ticket).key = s.key := by
  unfold leave
  split <;> rfl

@[simp] theorem entry_leave (s : Slot) (ticket : Nat) : (s.leave ticket).entry = s.entry := by
  unfold leave
  split <;> rfl

end Slot

namespace Cache

def keyOf? (c : Cache) (n : Nat) : Option CacheKey := (c.slots[n]?).map Slot.key

theorem keyOf?_lt (c : Cache) (n : Nat) (key : CacheKey) (h : c.keyOf? n = some key) :
    n < c.slots.length := by
  unfold keyOf? at h
  obtain ⟨s, hs, -⟩ := Option.map_eq_some_iff.mp h
  exact (List.getElem?_eq_some_iff.mp hs).1

theorem held?_lt (c : Cache) (n : Nat) (entry : CacheEntry) (h : c.held? n = some entry) :
    n < c.slots.length := by
  unfold held? at h
  obtain ⟨s, hs, -⟩ := Option.bind_eq_some_iff.mp h
  exact (List.getElem?_eq_some_iff.mp hs).1

/-! ## Changing one slot -/

@[simp] theorem length_slots_modify (c : Cache) (n : Nat) (f : Slot → Slot) :
    (c.modify n f).slots.length = c.slots.length := List.length_modify _ _ _

theorem keyOf?_modify (c : Cache) (n m : Nat) (f : Slot → Slot) (keeps : ∀ s, (f s).key = s.key) :
    (c.modify n f).keyOf? m = c.keyOf? m := by
  unfold keyOf? modify
  rw [List.getElem?_modify]
  cases c.slots[m]? with
  | none => rfl
  | some s =>
    by_cases h : n = m
    · simp [h, keeps]
    · simp [h]

theorem held?_modify (c : Cache) (n m : Nat) (f : Slot → Slot)
    (keeps : ∀ s, (f s).entry = s.entry) : (c.modify n f).held? m = c.held? m := by
  unfold held? modify
  rw [List.getElem?_modify]
  cases c.slots[m]? with
  | none => rfl
  | some s =>
    by_cases h : n = m
    · simp [h, keeps]
    · simp [h]

@[simp] theorem held?_join (c : Cache) (n m ticket : Nat) :
    (c.modify n (·.join ticket)).held? m = c.held? m :=
  held?_modify c n m _ fun s => s.entry_join ticket

@[simp] theorem held?_leave (c : Cache) (n m ticket : Nat) :
    (c.modify n (·.leave ticket)).held? m = c.held? m :=
  held?_modify c n m _ fun s => s.entry_leave ticket

@[simp] theorem keyOf?_settle (c : Cache) (n m : Nat) (entry : CacheEntry) :
    (c.modify n (·.settle entry)).keyOf? m = c.keyOf? m :=
  keyOf?_modify c n m _ fun _ => rfl

/-- Settling a slot shows in this slot only. -/
theorem held?_settle (c : Cache) (n m : Nat) (entry found : CacheEntry)
    (h : (c.modify n (·.settle entry)).held? m = some found) :
    (m = n ∧ found = entry) ∨ c.held? m = some found := by
  unfold held? modify at h
  rw [List.getElem?_modify] at h
  by_cases same : n = m
  · subst same
    refine Or.inl ⟨rfl, ?_⟩
    cases hs : c.slots[n]? with
    | none => simp [hs] at h
    | some s =>
      simp only [hs, if_true, Slot.settle] at h
      exact (Option.some.inj h).symm
  · refine Or.inr ?_
    simpa [same, held?] using h

/-- A slot that exists holds the client that it was given. -/
theorem held?_settle_self (c : Cache) (n : Nat) (entry : CacheEntry) (bound : n < c.slots.length) :
    (c.modify n (·.settle entry)).held? n = some entry := by
  unfold held? modify
  simp [List.getElem?_eq_getElem bound, Slot.settle]

/-! ## Dropping entries of the index -/

@[simp] theorem slots_drop (c : Cache) (key : CacheKey) : (c.drop key).slots = c.slots := rfl

theorem index_drop_subset (c : Cache) (key : CacheKey) : (c.drop key).index ⊆ c.index :=
  List.filter_sublist.subset

@[simp] theorem slots_enforceBound (keep : CacheKey) (fuel : Nat) (c : Cache) :
    (enforceBound keep fuel c).slots = c.slots := by
  induction fuel generalizing c with
  | zero => rfl
  | succ fuel ih =>
    unfold enforceBound
    split
    · split
      · rw [ih, slots_drop]
      · rfl
    · rfl

theorem index_enforceBound_subset (keep : CacheKey) (fuel : Nat) (c : Cache) :
    (enforceBound keep fuel c).index ⊆ c.index := by
  induction fuel generalizing c with
  | zero => exact List.Subset.refl _
  | succ fuel ih =>
    unfold enforceBound
    split
    · split
      · next key _ => exact List.Subset.trans (ih (c.drop key)) (index_drop_subset c key)
      · exact List.Subset.refl _
    · exact List.Subset.refl _

@[simp] theorem slots_sweep (c : Cache) (key : CacheKey) (slot : Nat) :
    (c.sweep key slot).slots = c.slots := by
  unfold sweep
  split <;> rfl

theorem index_sweep_subset (c : Cache) (key : CacheKey) (slot : Nat) :
    (c.sweep key slot).index ⊆ c.index := by
  unfold sweep
  split
  · exact index_drop_subset c key
  · exact List.Subset.refl _

theorem index_evict_subset (c : Cache) (identity : Identity) :
    (c.evict identity).index ⊆ c.index := List.filter_sublist.subset

/-- No slot of an identity is current once it was evicted. -/
theorem identity_ne_of_mem_evict (c : Cache) (identity : Identity) (e : CacheKey × Nat)
    (h : e ∈ (c.evict identity).index) : e.1.identity ≠ identity := by
  simpa using (List.mem_filter.mp h).2

theorem index_purge_subset (c : Cache) (now : Nat) (wall : Time.Instant) :
    (c.purge now wall).index ⊆ c.index := List.filter_sublist.subset

/-! ## Making a slot -/

@[simp] theorem slots_makeSlot (c : Cache) (key : CacheKey) :
    (c.makeSlot key).1.slots = c.slots ++ [Slot.fresh key] := slots_enforceBound _ _ _

theorem index_makeSlot (c : Cache) (key : CacheKey) (e : CacheKey × Nat)
    (h : e ∈ (c.makeSlot key).1.index) : e ∈ c.index ∨ e = (key, c.slots.length) := by
  have made := index_enforceBound_subset _ _ _ h
  rcases List.mem_append.mp made with old | new
  · exact Or.inl ((List.mem_filter.mp old).1)
  · exact Or.inr (List.mem_singleton.mp new)

theorem keyOf?_makeSlot (c : Cache) (key : CacheKey) (m : Nat) :
    (c.makeSlot key).1.keyOf? m = if m = c.slots.length then some key else c.keyOf? m := by
  unfold keyOf?
  rw [slots_makeSlot]
  rcases Nat.lt_trichotomy m c.slots.length with less | same | more
  · rw [List.getElem?_append_left less, if_neg (by omega)]
  · subst same
    simp [Slot.fresh]
  · rw [if_neg (by omega), List.getElem?_eq_none (by simp; omega),
      List.getElem?_eq_none (by omega)]

/-- A new slot holds no client. -/
theorem held?_makeSlot (c : Cache) (key : CacheKey) (m : Nat) :
    (c.makeSlot key).1.held? m = c.held? m := by
  unfold held?
  rw [slots_makeSlot]
  rcases Nat.lt_trichotomy m c.slots.length with less | same | more
  · rw [List.getElem?_append_left less]
  · subst same
    simp [Slot.fresh]
  · rw [List.getElem?_eq_none (by simp; omega), List.getElem?_eq_none (by omega)]

/-! ## The slot of a key -/

theorem mem_index_of_find? (c : Cache) (key : CacheKey) (n : Nat) (h : c.find? key = some n) :
    (key, n) ∈ c.index := by
  unfold find? at h
  obtain ⟨e, found, rfl⟩ := Option.map_eq_some_iff.mp h
  have same : e.1 = key := by simpa using List.find?_some found
  rw [← same]
  exact List.mem_of_find?_eq_some found

/-- The slot of a key is its current one, and nothing changes, or a new one. -/
theorem slotFor_cases (c : Cache) (key : CacheKey) (now : Nat) (wall : Time.Instant) :
    (∃ n, c.slotFor key now wall = (c, n) ∧ (key, n) ∈ c.index) ∨
      c.slotFor key now wall = c.makeSlot key := by
  unfold slotFor
  split
  · next n hf =>
    split
    · next s _ =>
      cases s.isStale c.ttl now wall with
      | true => exact Or.inr rfl
      | false => exact Or.inl ⟨n, rfl, mem_index_of_find? c key n hf⟩
    · exact Or.inr rfl
  · exact Or.inr rfl

/-- The end of the clock shows in a slot exactly if its client goes stale beyond it. -/
theorem overruns_iff (c : Cache) (n : Nat) :
    c.overruns n = true ↔ ∃ entry, c.held? n = some entry ∧ clockEnd < entry.created + c.ttl := by
  unfold overruns
  cases held : c.held? n with
  | none => simp
  | some entry => simp [later?]

/-- It shows at a lookup exactly if it does in the current slot of the key. -/
theorem outlivesClock_iff (c : Cache) (key : CacheKey) :
    c.outlivesClock key = true ↔ ∃ n entry, c.find? key = some n ∧ c.held? n = some entry ∧
      clockEnd < entry.created + c.ttl := by
  unfold outlivesClock
  cases found : c.find? key with
  | none => simp
  | some n => simp [c.overruns_iff n]

theorem outlivesClock_eq_false {c : Cache} {key : CacheKey}
    (within : ∀ n entry, c.find? key = some n → c.held? n = some entry →
      entry.created + c.ttl ≤ clockEnd) : c.outlivesClock key = false := by
  refine Bool.eq_false_iff.mpr fun beyond => ?_
  obtain ⟨n, entry, found, held, late⟩ := (c.outlivesClock_iff key).mp beyond
  exact absurd (within n entry found held) (Nat.not_le_of_lt late)

/-! ## One current slot for each key -/

/-- No key has two current slots. -/
def IsUnique (c : Cache) : Prop :=
  ∀ key n m, (key, n) ∈ c.index → (key, m) ∈ c.index → n = m

theorem isUnique_of_subset (c c' : Cache) (unique : c.IsUnique) (index : c'.index ⊆ c.index) :
    c'.IsUnique :=
  fun key n m h h' => unique key n m (index h) (index h')

/-! ## The oldest client -/

theorem goesBefore_iff {rank : CacheKey → Nat} {a b : CacheKey × CacheEntry} :
    goesBefore rank a b = true ↔
      toLex (a.2.created, rank a.1) < toLex (b.2.created, rank b.1) := by
  simp [goesBefore, Prod.Lex.toLex_lt_toLex]

theorem eldest?_eq_argmin (rank : CacheKey → Nat) (es : List (CacheKey × CacheEntry)) :
    eldest? rank es = es.argmin fun e => toLex (e.2.created, rank e.1) := by
  unfold eldest? List.argmin
  congr 1
  funext best e
  cases best with
  | none => rfl
  | some b => simp only [List.argAux, goesBefore_iff]

/-- A client is in the current slot of a key. -/
def Caches (c : Cache) (key : CacheKey) (entry : CacheEntry) : Prop :=
  ∃ n, (key, n) ∈ c.index ∧ c.held? n = some entry

theorem mem_clientsBeside_iff {c : Cache} {key keep : CacheKey} {entry : CacheEntry} :
    (key, entry) ∈ c.clientsBeside keep ↔ key ≠ keep ∧ c.Caches key entry := by
  constructor
  · intro member
    obtain ⟨e, current, listed⟩ := List.mem_filterMap.mp member
    split at listed
    · cases listed
    · next different =>
      obtain ⟨held, there, same⟩ := Option.map_eq_some_iff.mp listed
      cases same
      exact ⟨different, e.2, current, there⟩
  · rintro ⟨different, n, current, held⟩
    exact List.mem_filterMap.mpr ⟨(key, n), current, by simp [different, held]⟩

/-- What is the oldest has a client, and is not what is to be kept. -/
theorem oldest?_spec (c : Cache) (keep key : CacheKey) (h : c.oldest? keep = some key) :
    key ≠ keep ∧ ∃ entry, c.Caches key entry := by
  obtain ⟨best, chosen, rfl⟩ := Option.map_eq_some_iff.mp h
  rw [eldest?_eq_argmin] at chosen
  obtain ⟨other, caches⟩ := mem_clientsBeside_iff.mp (List.argmin_mem chosen)
  exact ⟨other, best.2, caches⟩

/-- The bound costs neither the slot that is to be kept nor an empty one. -/
theorem mem_enforceBound (keep : CacheKey) (fuel : Nat) (c : Cache) (unique : c.IsUnique)
    (e : CacheKey × Nat) (member : e ∈ c.index) (spared : e.1 = keep ∨ c.held? e.2 = none) :
    e ∈ (enforceBound keep fuel c).index := by
  induction fuel generalizing c with
  | zero => exact member
  | succ fuel ih =>
    unfold enforceBound
    split
    · split
      · next key oldest =>
        obtain ⟨other, entry, n, in_index, found⟩ := c.oldest?_spec keep key oldest
        have different : e.1 ≠ key := by
          intro same
          rcases spared with kept | empty
          · exact other (same.symm.trans kept)
          · have here : (key, e.2) ∈ c.index := same ▸ member
            rw [unique key e.2 n here in_index, found] at empty
            cases empty
        refine ih (c.drop key) (isUnique_of_subset c _ unique (index_drop_subset c key)) ?_ spared
        exact List.mem_filter.mpr ⟨member, by simpa using different⟩
      · exact member
    · exact member

/-- The cache with a new slot, before its bound is looked at. -/
def withSlot (c : Cache) (key : CacheKey) : Cache :=
  { c with
    slots := c.slots ++ [Slot.fresh key]
    index := (c.index.filter fun e => e.1 ≠ key) ++ [(key, c.slots.length)] }

theorem makeSlot_eq (c : Cache) (key : CacheKey) :
    c.makeSlot key =
      (enforceBound key (c.withSlot key).size (c.withSlot key), c.slots.length) := rfl

theorem mem_withSlot (c : Cache) (key : CacheKey) (e : CacheKey × Nat) :
    e ∈ (c.withSlot key).index ↔ (e ∈ c.index ∧ e.1 ≠ key) ∨ e = (key, c.slots.length) := by
  simp [withSlot]

theorem isUnique_withSlot (c : Cache) (key : CacheKey) (unique : c.IsUnique) :
    (c.withSlot key).IsUnique := by
  intro k n m h h'
  rcases (c.mem_withSlot key (k, n)).mp h with ⟨old, other⟩ | new
  · rcases (c.mem_withSlot key (k, m)).mp h' with ⟨old', _⟩ | new'
    · exact unique k n m old old'
    · exact absurd (congrArg Prod.fst new') other
  · rcases (c.mem_withSlot key (k, m)).mp h' with ⟨_, other⟩ | new'
    · exact absurd (congrArg Prod.fst new) other
    · exact congrArg Prod.snd (new.trans new'.symm)

theorem isUnique_makeSlot (c : Cache) (key : CacheKey) (unique : c.IsUnique) :
    (c.makeSlot key).1.IsUnique :=
  isUnique_of_subset _ _ (isUnique_withSlot c key unique) (index_enforceBound_subset _ _ _)

/-- The slot that is made is current, and the empty current slots of other keys stay so. -/
theorem mem_makeSlot (c : Cache) (key : CacheKey) (unique : c.IsUnique) (e : CacheKey × Nat)
    (h : (e ∈ c.index ∧ e.1 ≠ key ∧ c.held? e.2 = none) ∨ e = (key, c.slots.length)) :
    e ∈ (c.makeSlot key).1.index := by
  rw [makeSlot_eq]
  refine mem_enforceBound key _ _ (isUnique_withSlot c key unique) e ?_ ?_
  · rcases h with ⟨old, other, _⟩ | new
    · exact (c.mem_withSlot key e).mpr (Or.inl ⟨old, other⟩)
    · exact (c.mem_withSlot key e).mpr (Or.inr new)
  · rcases h with ⟨_, _, empty⟩ | new
    · right
      have made := c.held?_makeSlot key e.2
      rw [makeSlot_eq] at made
      simpa [held?, empty] using made.trans empty
    · exact Or.inl (congrArg Prod.fst new)

/-- A current slot is the one that is found. -/
theorem find?_of_mem (c : Cache) (unique : c.IsUnique) (key : CacheKey) (n : Nat)
    (member : (key, n) ∈ c.index) : c.find? key = some n := by
  cases found : c.find? key with
  | some m => exact congrArg some (unique key m n (c.mem_index_of_find? key m found) member)
  | none =>
    unfold find? at found
    have missing := List.find?_eq_none.mp (Option.map_eq_none_iff.mp found) (key, n) member
    simp at missing

/-- An empty current slot is not replaced. -/
theorem slotFor_of_empty (c : Cache) (unique : c.IsUnique) (key : CacheKey) (n now : Nat)
    (wall : Time.Instant) (member : (key, n) ∈ c.index) (made : c.keyOf? n = some key)
    (empty : c.held? n = none) : c.slotFor key now wall = (c, n) := by
  obtain ⟨s, there, _⟩ := Option.map_eq_some_iff.mp made
  have fresh : s.isStale c.ttl now wall = false := by
    have no_entry : s.entry = none := by simpa [held?, there] using empty
    unfold Slot.isStale
    rw [no_entry]
  unfold slotFor
  simp only [find?_of_mem c unique key n member, there, fresh]
  rfl

end Cache

/-- A caller finds the current slot of its key, and nothing changes, or makes a new one, unless the
clock ends. -/
theorem World.seek_cases {β : Type} (w : World β) (key : CacheKey) (now : Nat) :
    w.seek key now = (none, { w with halted := true }) ∨
      (∃ n, w.seek key now = (some n, w) ∧ (key, n) ∈ w.cache.index) ∨
        w.seek key now =
          (some w.cache.slots.length, w.mapCache fun c => (c.makeSlot key).1) := by
  unfold seek
  split
  · exact Or.inl rfl
  · rcases w.cache.slotFor_cases key now w.wall with ⟨n, found, member⟩ | made
    · rw [found]
      exact Or.inr (Or.inl ⟨n, rfl, member⟩)
    · rw [made]
      exact Or.inr (Or.inr rfl)

/-- A purge drops stale slots, or ends everything. -/
theorem World.purge_cases {β : Type} (w : World β) :
    w.purge.2 = { w with halted := true } ∨
      w.purge.2 = w.mapCache fun c => c.purge w.now w.wall := by
  unfold purge
  split
  · exact .inl rfl
  · exact .inr rfl

theorem World.backend_purge {β : Type} (w : World β) : w.purge.2.backend = w.backend := by
  rcases w.purge_cases with ended | purged
  · rw [ended]
  · rw [purged]
    rfl

/-- A purge ends nothing if the clock reaches the end of every current client. -/
theorem World.purge_of_within {β : Type} (w : World β)
    (within : ∀ e ∈ w.cache.index, ∀ entry, w.cache.held? e.2 = some entry →
      entry.created + w.cache.ttl ≤ clockEnd) :
    w.purge = (some (w.cache.size - (w.cache.purge w.now w.wall).size),
      w.mapCache fun c => c.purge w.now w.wall) := by
  unfold purge
  rw [if_neg]
  · rfl
  · intro beyond
    obtain ⟨e, current, overruns⟩ := List.any_eq_true.mp beyond
    obtain ⟨entry, held, late⟩ := (w.cache.overruns_iff e.2).mp overruns
    exact absurd (within e current entry held) (Nat.not_le_of_lt late)

end ClusterGraph
