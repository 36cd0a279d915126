import ClusterGraph.Proofs.Access.Changes

/-!
# What the bound of the cache costs

A slot that is made pushes out clients of other keys until the cache is within its bound. Whatever
the current slots hold, and whichever key comes first among those whose clients were put into their
slots at the same time, no more clients are evicted than the bound asks for, and none of them is
younger than one that stays (`Cache.makeSlot_evicts`).
-/
namespace ClusterGraph
namespace Cache

variable {c : Cache} {key keep : CacheKey} {entry other : CacheEntry}

theorem caches_drop_iff : (c.drop keep).Caches key entry ↔ c.Caches key entry ∧ key ≠ keep := by
  constructor
  · rintro ⟨n, member, held⟩
    obtain ⟨current, different⟩ := List.mem_filter.mp member
    exact ⟨⟨n, current, held⟩, by simpa using different⟩
  · rintro ⟨⟨n, current, held⟩, different⟩
    exact ⟨n, List.mem_filter.mpr ⟨current, by simpa using different⟩, held⟩

/-! ## The oldest client -/

/-- The oldest client is one of another key, and no other client of another key was put into its
slot earlier. -/
theorem caches_of_oldest? (found : c.oldest? keep = some key) :
    key ≠ keep ∧ ∃ entry, c.Caches key entry ∧
      ∀ key' other, key' ≠ keep → c.Caches key' other → entry.created ≤ other.created := by
  obtain ⟨⟨key, entry⟩, chosen, rfl⟩ := Option.map_eq_some_iff.mp found
  rw [eldest?_eq_argmin] at chosen
  obtain ⟨different, caches⟩ := mem_clientsBeside_iff.mp (List.argmin_mem chosen)
  refine ⟨different, entry, caches, ?_⟩
  intro key' other beside held
  have listed := mem_clientsBeside_iff.mpr ⟨beside, held⟩
  exact Prod.Lex.monotone_fst _ _ (List.le_of_mem_argmin listed chosen)

/-! ## Evictions -/

/-- The clients that are there beside a key are those that were there, but for some that were
evicted: at most `excess`, and none that is younger than one that stays. -/
structure Evicts (keep : CacheKey) (excess : Nat) (before after : Cache)
    (evicted : List (CacheKey × CacheEntry)) : Prop where
  few : evicted.length ≤ excess
  were : ∀ e ∈ evicted, e.1 ≠ keep ∧ before.Caches e.1 e.2
  others : ∀ key entry, key ≠ keep →
    (after.Caches key entry ↔ before.Caches key entry ∧ key ∉ evicted.map Prod.fst)
  oldest : ∀ e ∈ evicted, ∀ key entry, key ≠ keep → after.Caches key entry →
    e.2.created ≤ entry.created

/-- Nothing is evicted where nothing changes beside the key. -/
theorem evicts_nil {before after : Cache} (excess : Nat)
    (same : ∀ key entry, key ≠ keep → (after.Caches key entry ↔ before.Caches key entry)) :
    Evicts keep excess before after [] where
  few := Nat.zero_le excess
  were := List.forall_mem_nil _
  others key entry different := by simp [same key entry different]
  oldest := List.forall_mem_nil _

/-- Changes that touch nothing beside the key, before an eviction and after it. -/
theorem Evicts.congr {excess : Nat} {before after before' after' : Cache}
    {evicted : List (CacheKey × CacheEntry)} (evicts : Evicts keep excess before after evicted)
    (first : ∀ key entry, key ≠ keep → (before'.Caches key entry ↔ before.Caches key entry))
    (last : ∀ key entry, key ≠ keep → (after'.Caches key entry ↔ after.Caches key entry)) :
    Evicts keep excess before' after' evicted where
  few := evicts.few
  were e member :=
    have was := evicts.were e member
    ⟨was.1, (first e.1 e.2 was.1).mpr was.2⟩
  others key entry different := by
    rw [last key entry different, first key entry different]
    exact evicts.others key entry different
  oldest e member key entry different held :=
    evicts.oldest e member key entry different ((last key entry different).mp held)

theorem Evicts.mono {excess more : Nat} {before after : Cache}
    {evicted : List (CacheKey × CacheEntry)} (evicts : Evicts keep excess before after evicted)
    (enough : excess ≤ more) : Evicts keep more before after evicted :=
  ⟨Nat.le_trans evicts.few enough, evicts.were, evicts.others, evicts.oldest⟩

/-- One more is evicted if the oldest client is dropped first. -/
theorem Evicts.cons {excess : Nat} {after : Cache} {evicted : List (CacheKey × CacheEntry)}
    (evicts : Evicts keep excess (c.drop key) after evicted) (beside : key ≠ keep)
    (held : c.Caches key entry) (oldest : ∀ key' other, key' ≠ keep → c.Caches key' other →
      entry.created ≤ other.created) :
    Evicts keep (excess + 1) c after ((key, entry) :: evicted) where
  few := Nat.succ_le_succ evicts.few
  were e member := by
    rcases List.mem_cons.mp member with rfl | later
    · exact ⟨beside, held⟩
    · obtain ⟨different, was⟩ := evicts.were e later
      exact ⟨different, (caches_drop_iff.mp was).1⟩
  others key' other different := by
    rw [evicts.others key' other different, caches_drop_iff]
    simp [and_assoc]
  oldest e member key' other different stays := by
    have still := ((evicts.others key' other different).mp stays).1
    rcases List.mem_cons.mp member with rfl | later
    · exact oldest key' other different (caches_drop_iff.mp still).1
    · exact evicts.oldest e later key' other different stays

theorem enforceBound_evicts (keep : CacheKey) (fuel : Nat) (c : Cache) :
    ∃ evicted, Evicts keep (c.size - max c.maxEntries 1) c (enforceBound keep fuel c) evicted := by
  induction fuel generalizing c with
  | zero => exact ⟨[], evicts_nil _ fun _ _ _ => Iff.rfl⟩
  | succ fuel ih =>
    unfold enforceBound
    split
    · next beyond =>
      split
      · next key found =>
        obtain ⟨beside, entry, held, oldest⟩ := caches_of_oldest? found
        have smaller : (c.drop key).size < c.size := by
          obtain ⟨n, current, -⟩ := held
          exact List.length_filter_lt_length_iff_exists.mpr ⟨(key, n), current, by simp⟩
        obtain ⟨evicted, evicts⟩ := ih (c.drop key)
        have rest : (c.drop key).size - max (c.drop key).maxEntries 1 + 1 ≤
            c.size - max c.maxEntries 1 := by
          simp only [drop] at smaller ⊢
          omega
        exact ⟨(key, entry) :: evicted, (evicts.cons beside held oldest).mono rest⟩
      · exact ⟨[], evicts_nil _ fun _ _ _ => Iff.rfl⟩
    · exact ⟨[], evicts_nil _ fun _ _ _ => Iff.rfl⟩

/-- A slot that is made costs clients of other keys only if there are too many current slots with
it. -/
theorem makeSlot_evicts (c : Cache) (key : CacheKey) :
    ∃ evicted, Evicts key ((c.drop key).size + 1 - max c.maxEntries 1) c (c.makeSlot key).1
      evicted := by
  obtain ⟨evicted, evicts⟩ := enforceBound_evicts key (c.withSlot key).size (c.withSlot key)
  have size : (c.withSlot key).size = (c.drop key).size + 1 := by simp [withSlot, size, drop]
  rw [makeSlot_eq]
  refine ⟨evicted, size ▸ evicts.congr ?_ fun _ _ _ => Iff.rfl⟩
  intro key' entry different
  have same (n : Nat) : (c.withSlot key).held? n = c.held? n := by
    have made := c.held?_makeSlot key n
    simpa [makeSlot_eq, held?] using made
  simp [Caches, same, mem_withSlot, different]

end Cache
end ClusterGraph
