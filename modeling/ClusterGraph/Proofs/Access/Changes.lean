import ClusterGraph.Proofs.Access.Passage
import ClusterGraph.Proofs.Access.Slots

/-!
# What one step can do to the cache

Whoever acts, the cache only ever changes in four ways: current slots are dropped, a slot is made, a
slot changes in what concerns neither its key nor its client, or a client is put into a slot.
`Course.Takes.change` says so of every move. What holds of the cache in all runs is then proved by
looking at four cases.
-/
namespace ClusterGraph

/-- The second cache is what one step makes of the first. -/
inductive Cache.Change (c : Cache) : Cache → Prop where
  | lose (index : List (CacheKey × Nat)) (fewer : index.Sublist c.index) :
    Change c { c with index := index }
  | make (key : CacheKey) : Change c (c.makeSlot key).1
  | adjust (slot : Nat) (f : Slot → Slot) (key : ∀ s, (f s).key = s.key)
    (entry : ∀ s, (f s).entry = s.entry) : Change c (c.modify slot f)
  | settle (slot : Nat) (entry : CacheEntry) : Change c (c.modify slot (·.settle entry))

namespace Cache

theorem change_refl (c : Cache) : c.Change c := .lose c.index (List.Sublist.refl _)

theorem change_leave (c : Cache) (slot ticket : Nat) : c.Change (c.modify slot (·.leave ticket)) :=
  .adjust slot _ (fun s => s.key_leave ticket) fun s => s.entry_leave ticket

theorem change_evict (c : Cache) (identity : Identity) : c.Change (c.evict identity) :=
  .lose _ List.filter_sublist

theorem change_sweep (c : Cache) (key : CacheKey) (slot : Nat) : c.Change (c.sweep key slot) := by
  unfold sweep
  split
  · exact .lose _ List.filter_sublist
  · exact change_refl c

theorem change_purge (c : Cache) (now : Nat) (wall : Time.Instant) : c.Change (c.purge now wall) :=
  .lose _ List.filter_sublist

/-! ### What is said of every change -/

/-- Keeping the bound changes nothing but the index. -/
theorem enforceBound_eq (keep : CacheKey) (fuel : Nat) (c : Cache) :
    enforceBound keep fuel c = { c with index := (enforceBound keep fuel c).index } := by
  induction fuel generalizing c with
  | zero => rfl
  | succ fuel ih =>
    unfold enforceBound
    split
    · split
      · next key _ => exact ih (c.drop key)
      · rfl
    · rfl

theorem Change.maxEntries_eq (c c' : Cache) (change : c.Change c') :
    c'.maxEntries = c.maxEntries := by
  cases change with
  | make key =>
    rw [makeSlot_eq, enforceBound_eq]
    rfl
  | _ => rfl

theorem Change.ttl_eq (c c' : Cache) (change : c.Change c') : c'.ttl = c.ttl := by
  cases change with
  | make key =>
    rw [makeSlot_eq, enforceBound_eq]
    rfl
  | _ => rfl

theorem Change.order_eq (c c' : Cache) (change : c.Change c') : c'.order = c.order := by
  cases change with
  | make key =>
    rw [makeSlot_eq, enforceBound_eq]
    rfl
  | _ => rfl

theorem Change.isUnique (c c' : Cache) (change : c.Change c') (unique : c.IsUnique) :
    c'.IsUnique := by
  cases change with
  | lose index fewer => exact isUnique_of_subset c _ unique fewer.subset
  | make key => exact isUnique_makeSlot c key unique
  | adjust slot f key entry => exact unique
  | settle slot entry => exact unique

/-- No change takes a client out of a slot. -/
theorem Change.held?_none (c c' : Cache) (change : c.Change c') (n : Nat)
    (empty : c'.held? n = none) : c.held? n = none := by
  cases change with
  | lose index fewer => exact empty
  | make key => exact (c.held?_makeSlot key n).symm.trans empty
  | adjust slot f key same => exact (c.held?_modify slot n f same).symm.trans empty
  | settle slot entry =>
    unfold Cache.held? modify at *
    rw [List.getElem?_modify] at empty
    cases there : c.slots[n]? with
    | none => rfl
    | some s =>
      by_cases same : slot = n
      · simp [there, same, Slot.settle] at empty
      · simpa [there, same] using empty

end Cache

/-! ## Moves -/

namespace Passage

theorem change_next (key : CacheKey) (w : World OrderBook) (p : Passage) :
    w.cache.Change (p.next key w).2.cache := by
  cases p with
  | expelling => exact w.cache.change_evict key.identity
  | seeking now =>
    rcases w.seek_cases key now with ended | ⟨n, found, _⟩ | made
    · simp only [next, ended]
      exact w.cache.change_refl
    · simp only [next, found]
      exact w.cache.change_refl
    · simp only [next, made]
      exact .make key
  | entering slot =>
    simp only [next, World.enter]
    split
    · exact w.cache.change_refl
    · exact .adjust slot _ (fun s => s.key_join w.tickets) fun s => s.entry_join w.tickets
  | settling slot ticket order created => exact .settle slot _
  | leaving slot ticket e => exact w.cache.change_leave slot ticket
  | sweeping slot e => exact w.cache.change_sweep key slot
  | _ => exact w.cache.change_refl

theorem change_undo (w : World OrderBook) (p : Passage) : w.cache.Change (p.undo w).cache := by
  cases p with
  | waiting slot ticket => exact w.cache.change_leave slot ticket
  | building slot ticket order => exact w.cache.change_leave slot ticket
  | _ => exact w.cache.change_refl

theorem now_next (key : CacheKey) (w : World OrderBook) (p : Passage) :
    (p.next key w).2.now = w.now := by
  cases p with
  | seeking now =>
    simp only [next, World.seek]
    split <;> rfl
  | entering slot =>
    simp only [next, World.enter]
    split <;> rfl
  | _ => rfl

theorem now_undo (w : World OrderBook) (p : Passage) : (p.undo w).now = w.now := by
  cases p <;> rfl

end Passage

namespace Course

/-- Every move changes the cache in one of the four ways. -/
theorem Takes.change (c c' : Course) (m : Move) (takes : c.Takes m c') :
    c.world.cache.Change c'.world.cache := by
  cases takes with
  | go k identity scope p found => exact Passage.change_next _ c.world p
  | drop k identity scope p found waits => exact Passage.change_undo c.world p
  | evict identity => exact c.world.cache.change_evict identity
  | purge => exact c.world.cache.change_purge c.world.now c.world.wall
  | _ => exact c.world.cache.change_refl

/-- Time never runs backward. -/
theorem Takes.now_le (c c' : Course) (m : Move) (takes : c.Takes m c') :
    c.world.now ≤ c'.world.now := by
  cases takes with
  | go k identity scope p found => exact Nat.le_of_eq (Passage.now_next _ c.world p).symm
  | drop k identity scope p found waits => exact Nat.le_of_eq (Passage.now_undo c.world p).symm
  | pass d => exact Nat.le_add_right _ _
  | _ => exact Nat.le_refl _

/-! ## Runs -/

theorem run_append (c : Course) (moves later : List Move) :
    c.run (moves ++ later) = (c.run moves).run later := List.foldl_append

theorem run_concat (c : Course) (moves : List Move) (m : Move) :
    c.run (moves ++ [m]) = (c.run moves).step m := run_append c moves [m]

theorem run_cut (c : Course) (early : List Move) (m : Move) (late : List Move) :
    c.run (early ++ m :: late) = ((c.run early).step m).run late := run_append c early (m :: late)

theorem now_run (c : Course) (moves : List Move) : c.world.now ≤ (c.run moves).world.now := by
  induction moves generalizing c with
  | nil => exact Nat.le_refl _
  | cons m rest ih => exact Nat.le_trans (c.takes_step m).now_le (ih (c.step m))

/-- What every change of the cache keeps holds in every run. -/
theorem cache_run (P : Cache → Prop) (keeps : ∀ c c', c.Change c' → P c → P c') (c : Course)
    (moves : List Move) (now : P c.world.cache) : P (c.run moves).world.cache := by
  induction moves generalizing c with
  | nil => exact now
  | cons m rest ih => exact ih (c.step m) (keeps _ _ (c.takes_step m).change now)

theorem ttl_run (ttl maxEntries : Nat) (order : KeyOrder) (wall : Time.Instant)
    (moves : List Move) : ((start ttl maxEntries order wall).run moves).world.cache.ttl = ttl :=
  cache_run (fun c => c.ttl = ttl) (fun c c' change same => (change.ttl_eq c c').trans same) _
    moves rfl

/-- The bound of the cache never changes. -/
theorem maxEntries_run (ttl maxEntries : Nat) (order : KeyOrder) (wall : Time.Instant)
    (moves : List Move) :
    ((start ttl maxEntries order wall).run moves).world.cache.maxEntries = maxEntries :=
  cache_run (fun c => c.maxEntries = maxEntries)
    (fun c c' change same => (change.maxEntries_eq c c').trans same) _ moves rfl

/-- No key ever has two current slots. -/
theorem isUnique_run (ttl maxEntries : Nat) (order : KeyOrder) (wall : Time.Instant)
    (moves : List Move) : ((start ttl maxEntries order wall).run moves).world.cache.IsUnique :=
  cache_run Cache.IsUnique (fun c c' change => change.isUnique c c') _ moves nofun

end Course
end ClusterGraph
