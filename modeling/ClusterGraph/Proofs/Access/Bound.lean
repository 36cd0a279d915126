import Mathlib.Data.List.Infix
import Mathlib.Data.List.Induction
import ClusterGraph.Proofs.Access.Changes

/-!
# How many clients the cache holds

The bound is kept when a slot is made, at the cost of slots with a client; slots that are under
construction are spared. So there can be more current slots than the bound allows, but only if more
than that were under construction at one moment (`size_makeSlot`, `Course.size_le`). When several of
them are given their clients nothing is dropped, and the cache holds too many clients until the next
slot is made (`Traffic.bound_exceeded`).
-/
namespace ClusterGraph

namespace Cache

def clients (c : Cache) : Nat := c.index.countP fun e => (c.held? e.2).isSome

def vacant (c : Cache) : Nat := c.index.countP fun e => (c.held? e.2).isNone

theorem clients_le_size (c : Cache) : c.clients ≤ c.size := List.countP_le_length

/-! ## What is the oldest -/

/-- Where nothing is the oldest, no current slot has a client, apart from the one to keep. -/
theorem held?_of_oldest?_none (c : Cache) (keep : CacheKey) (h : c.oldest? keep = none)
    (e : CacheKey × Nat) (member : e ∈ c.index) (other : e.1 ≠ keep) : c.held? e.2 = none := by
  cases found : c.held? e.2 with
  | none => rfl
  | some entry =>
    have listed : (e.1, entry) ∈ c.clientsBeside keep :=
      mem_clientsBeside_iff.mpr ⟨other, e.2, member, found⟩
    have nothing := Option.map_eq_none_iff.mp h
    rw [eldest?_eq_argmin, List.argmin_eq_none] at nothing
    exact absurd nothing (List.ne_nil_of_mem listed)

theorem size_drop_lt (c : Cache) (key : CacheKey) (n : Nat) (member : (key, n) ∈ c.index) :
    (c.drop key).size < c.size := by
  unfold size drop
  exact List.length_filter_lt_length_iff_exists.mpr ⟨(key, n), member, by simp⟩

/-- With enough fuel the bound is kept, or nothing is left that could be dropped. -/
theorem size_enforceBound (keep : CacheKey) (fuel : Nat) (c : Cache) (enough : c.size ≤ fuel) :
    (enforceBound keep fuel c).size ≤ max c.maxEntries 1 ∨
      (enforceBound keep fuel c).oldest? keep = none := by
  induction fuel generalizing c with
  | zero =>
    left
    simp only [enforceBound]
    omega
  | succ fuel ih =>
    unfold enforceBound
    split
    · split
      · next key oldest =>
        obtain ⟨_, _, n, member, _⟩ := c.oldest?_spec keep key oldest
        have smaller := c.size_drop_lt key n member
        exact ih (c.drop key) (by omega)
      · next nothing => exact Or.inr nothing
    · next within => exact Or.inl (Nat.le_of_not_lt within)

/-! ## After a slot was made -/

/-- The slot that was made is the only current one of its key. -/
theorem eq_of_mem_makeSlot (c : Cache) (key : CacheKey) (e : CacheKey × Nat)
    (member : e ∈ (c.makeSlot key).1.index) (same : e.1 = key) : e = (key, c.slots.length) := by
  rw [makeSlot_eq] at member
  have made := (c.mem_withSlot key e).mp (index_enforceBound_subset _ _ _ member)
  exact made.resolve_left fun old => old.2 same

/-- After a slot was made there are no more current slots than the bound allows, or all of them are
under construction. -/
theorem size_makeSlot (c : Cache) (key : CacheKey) :
    (c.makeSlot key).1.size ≤ max c.maxEntries 1 ∨
      (c.makeSlot key).1.size = (c.makeSlot key).1.vacant := by
  have made := c.makeSlot_eq key
  rcases size_enforceBound key (c.withSlot key).size (c.withSlot key) (Nat.le_refl _) with
    kept | nothing
  · left
    rw [made]
    exact kept
  · right
    refine (List.countP_eq_length.mpr ?_).symm
    intro e member
    rw [Option.isNone_iff_eq_none]
    by_cases same : e.1 = key
    · have new := c.eq_of_mem_makeSlot key e member same
      rw [c.held?_makeSlot key e.2, new]
      simp [held?]
    · rw [made] at member ⊢
      exact held?_of_oldest?_none _ key nothing e member same

/-- A change makes current slots more than a limit only if so many are under construction. -/
theorem Change.size_le (c c' : Cache) (change : c.Change c') (limit : Nat)
    (bound : max c.maxEntries 1 ≤ limit) (before : c.size ≤ limit) (vacant : c'.vacant ≤ limit) :
    c'.size ≤ limit := by
  cases change with
  | lose index fewer => exact Nat.le_trans fewer.length_le before
  | make key =>
    rcases c.size_makeSlot key with kept | all
    · exact Nat.le_trans kept bound
    · rw [all]
      exact vacant
  | adjust slot f key entry => exact before
  | settle slot entry => exact before

end Cache

/-- As long as no more slots than a limit are under construction there are no more current slots. -/
theorem Course.size_le (ttl maxEntries : Nat) (order : KeyOrder) (wall : Time.Instant)
    (moves : List Move) (limit : Nat) (bound : max maxEntries 1 ≤ limit)
    (vacant : ∀ before, before <+: moves →
      ((Course.start ttl maxEntries order wall).run before).world.cache.vacant ≤ limit) :
    ((Course.start ttl maxEntries order wall).run moves).world.cache.size ≤ limit := by
  induction moves using List.reverseRecOn with
  | nil => exact Nat.zero_le limit
  | append_singleton moves m ih =>
    have before := ih fun earlier early =>
      vacant earlier (early.trans (List.prefix_append moves [m]))
    have last := vacant (moves ++ [m]) (List.prefix_refl _)
    rw [run_concat] at last ⊢
    refine (takes_step _ m).change.size_le _ _ limit ?_ before last
    rw [maxEntries_run]
    exact bound

namespace Traffic

/-- In every run, the cache holds no more clients than its bound allows, or than slots were under
construction at one moment. -/
theorem clients_le (ttl maxEntries : Nat) (order : KeyOrder) (wall : Time.Instant)
    (moves : List Move) (limit : Nat) (bound : max maxEntries 1 ≤ limit)
    (vacant : ∀ before, before <+: moves →
      ((start ttl maxEntries order wall).run before).world.cache.vacant ≤ limit) :
    ((start ttl maxEntries order wall).run moves).world.cache.clients ≤ limit := by
  simp only [run_start] at vacant ⊢
  exact Nat.le_trans (Cache.clients_le_size _)
    (Course.size_le ttl maxEntries order wall moves limit bound vacant)

/-- Two callers of different identities build at the same time, and both builds succeed. -/
def buildsSideBySide : List Move :=
  List.flatten
    [[.call ⟨.bearer "alice", none⟩ ⟨none⟩, .call ⟨.bearer "bob", none⟩ ⟨none⟩],
      List.replicate 7 (.go 0), List.replicate 7 (.go 1), [.succeed 0, .succeed 1],
      List.replicate 4 (.go 0), List.replicate 4 (.go 1)]

theorem clients_le_side_by_side :
    ((start 60000 1 .asCame ⟨0, 0⟩).run buildsSideBySide).world.cache.clients ≤ 2 := by
  refine clients_le 60000 1 .asCame ⟨0, 0⟩ buildsSideBySide 2 (by decide) ?_
  intro before early
  have listed : before ∈ buildsSideBySide.inits := (List.mem_inits before _).mpr early
  have all : ∀ before ∈ buildsSideBySide.inits,
      ((start 60000 1 .asCame ⟨0, 0⟩).run before).world.cache.vacant ≤ 2 := by
    decide +kernel
  exact all before listed

/-- A cache for one client comes to hold two, though every build succeeds and nobody is dropped. -/
theorem bound_exceeded :
    ((start 60000 1 .asCame ⟨0, 0⟩).run buildsSideBySide).world.cache.clients = 2 := by
  rfl

end Traffic
end ClusterGraph
