import ClusterGraph.Proofs.Access.Bound
import ClusterGraph.Proofs.Access.Isolation

/-!
# Slots that nobody builds for

A slot is made empty, and one of those who have it is to fill it or to drop it: whoever builds and
succeeds puts a client into it, and whoever builds and fails drops it. So an empty current slot has
a caller of its key that is still on its way, or one that was dropped on its way; the latter drops
nothing. When all callers of a key have returned, its current slot holds a client
(`Traffic.current_slot_filled`). A single caller that is dropped while it builds leaves an empty
slot behind for good (`Traffic.slot_leaked`): empty slots are never stale and never evicted for the
bound.
-/
namespace ClusterGraph

namespace Cache

/-- An empty current slot is dropped when it is swept. -/
theorem not_mem_sweep (c : Cache) (unique : c.IsUnique) (key : CacheKey) (n : Nat)
    (member : (key, n) ∈ c.index) (empty : c.held? n = none) :
    (key, n) ∉ (c.sweep key n).index := by
  have current := c.find?_of_mem unique key n member
  unfold sweep
  rw [if_pos ⟨current, Option.isNone_iff_eq_none.mpr empty⟩]
  intro left
  simpa using (List.mem_filter.mp left).2

end Cache

namespace Passage

/-- After a step of a caller a current slot is an old one, or one of its key that it has. -/
theorem mem_index_next (key : CacheKey) (w : World OrderBook) (p : Passage) (k : CacheKey) (n : Nat)
    (member : (k, n) ∈ (p.next key w).2.cache.index) :
    (k, n) ∈ w.cache.index ∨ (k = key ∧ (p.next key w).1.slot? = some n) := by
  cases p with
  | expelling => exact Or.inl (Cache.index_evict_subset _ _ member)
  | seeking now =>
    rcases w.seek_cases key now with ended | ⟨m, found, _⟩ | made
    · simp only [next, ended] at member
      exact Or.inl member
    · simp only [next, found] at member
      exact Or.inl member
    · simp only [next, made] at member ⊢
      rcases Cache.index_makeSlot w.cache key (k, n) member with old | new
      · exact Or.inl old
      · cases new
        exact Or.inr ⟨rfl, rfl⟩
  | entering slot =>
    simp only [next, World.enter] at member
    split at member <;> exact Or.inl member
  | sweeping slot e => exact Or.inl (Cache.index_sweep_subset _ _ _ member)
  | _ => exact Or.inl member

/-- A caller keeps its slot until there is a client in it, or it sweeps it. -/
theorem keeps_slot (key : CacheKey) (w : World OrderBook) (p : Passage) (fits : p.Fits key w)
    (n : Nat) (mine : p.slot? = some n) :
    (p.next key w).1.slot? = some n ∨ ((p.next key w).2.cache.held? n).isSome ∨
      ∃ e, p = sweeping n e := by
  cases p with
  | entering slot =>
    cases mine
    cases found : w.cache.held? n with
    | some entry => simp [next, World.enter, found]
    | none => simp [next, World.enter, found, slot?]
  | checking slot ticket | waiting slot ticket =>
    cases mine
    simp only [next]
    split <;> exact Or.inl rfl
  | proceeding slot ticket =>
    cases mine
    cases found : w.cache.held? n with
    | some entry => simp [next, found]
    | none => simp [next, found, slot?]
  | building slot ticket order | collecting slot ticket order =>
    cases mine
    simp only [next]
    split <;> exact Or.inl rfl
  | settling slot ticket order created =>
    cases mine
    have bound := Cache.keyOf?_lt w.cache n key (fits.slot n rfl)
    refine Or.inr (Or.inl ?_)
    exact Option.isSome_iff_exists.mpr ⟨_, Cache.held?_settle_self w.cache n _ bound⟩
  | ordering slot ticket | stamping slot ticket order | leaving slot ticket e => exact Or.inl mine
  | sweeping slot e =>
    cases mine
    exact Or.inr (Or.inr ⟨e, rfl⟩)
  | _ => cases mine

end Passage

/-! ## Runs -/

namespace Course

/-- Every empty current slot has a caller of its key that has the slot, or that was dropped. -/
def Attended (c : Course) : Prop :=
  ∀ key n, (key, n) ∈ c.world.cache.index → c.world.cache.held? n = none →
    ∃ v ∈ c.visits, v.key = key ∧ ∀ p, v.place = some p → p.slot? = some n

/-- A change of the cache that moves no caller and makes no slot. -/
theorem attended_of_world (c : Course) (w : World OrderBook) (attended : c.Attended)
    (change : c.world.cache.Change w.cache) (index : w.cache.index ⊆ c.world.cache.index) :
    Attended ⟨w, c.visits⟩ := by
  intro key n member empty
  exact attended key n (index member) (change.held?_none _ _ n empty)

/-- A change that moves one caller: whatever it attended to it attends to still, or it is settled.
-/
theorem attended_of_set (c : Course) (w : World OrderBook) (k : Nat) (old new : Visit)
    (attended : c.Attended) (found : c.visits[k]? = some old) (same : new.key = old.key)
    (change : c.world.cache.Change w.cache)
    (index : ∀ key n, (key, n) ∈ w.cache.index →
      (key, n) ∈ c.world.cache.index ∨
        (key = new.key ∧ ∀ p, new.place = some p → p.slot? = some n))
    (keeps : ∀ n, (old.key, n) ∈ c.world.cache.index → (old.key, n) ∈ w.cache.index →
      w.cache.held? n = none → c.world.cache.held? n = none →
      (∀ p, old.place = some p → p.slot? = some n) → ∀ p, new.place = some p → p.slot? = some n) :
    Attended ⟨w, c.visits.set k new⟩ := by
  have bound : k < c.visits.length := (List.getElem?_eq_some_iff.mp found).1
  intro key n member empty
  rcases index key n member with before | ⟨rfl, here⟩
  · have was_empty := change.held?_none _ _ n empty
    obtain ⟨v, present, mine, place⟩ := attended key n before was_empty
    obtain ⟨j, at_j⟩ := List.mem_iff_getElem?.mp present
    by_cases moved : k = j
    · subst moved
      cases Option.some.inj (found.symm.trans at_j)
      subst mine
      exact ⟨new, List.mem_set bound new, same, keeps n before member empty was_empty place⟩
    · refine ⟨v, List.mem_of_getElem? (i := j) ?_, mine, place⟩
      rw [List.getElem?_set_ne moved]
      exact at_j
  · exact ⟨new, List.mem_set bound new, rfl, here⟩

theorem attended_step (c c' : Course) (m : Move) (takes : c.Takes m c') (sound : c.Sound)
    (unique : c.world.cache.IsUnique) (attended : c.Attended) : c'.Attended := by
  have change := takes.change
  cases takes with
  | call identity scope =>
    intro key n member empty
    obtain ⟨v, present, at_slot⟩ := attended key n member empty
    exact ⟨v, List.mem_append_left _ present, at_slot⟩
  | go k identity scope p found =>
    have fits : p.Fits (keyFor identity scope) c.world :=
      sound.visits _ (List.mem_of_getElem? found) p rfl
    refine attended_of_set c _ k _ _ attended found rfl change ?_ ?_
    · intro key n member
      rcases Passage.mem_index_next _ c.world p key n member with old | ⟨mine, here⟩
      · exact Or.inl old
      · refine Or.inr ⟨mine, ?_⟩
        intro p' place
        cases place
        exact here
    · intro n before member empty was_empty place p' next_place
      cases next_place
      rcases Passage.keeps_slot _ c.world p fits n (place p rfl) with here | full | ⟨e, rfl⟩
      · exact here
      · rw [empty] at full
        cases full
      · exact absurd member (Cache.not_mem_sweep c.world.cache unique _ n before was_empty)
  | drop k identity scope p found waits =>
    refine attended_of_set c _ k _ _ attended found rfl change ?_ ?_
    · intro key n member
      left
      cases p <;> exact member
    · exact fun _ _ _ _ _ _ => nofun
  | evict identity => exact attended_of_world c _ attended change (Cache.index_evict_subset _ _)
  | purge => exact attended_of_world c _ attended change (Cache.index_purge_subset _ _ _)
  | stay | finish | pass | setWall | halt =>
    exact attended_of_world c _ attended change (List.Subset.refl _)

theorem attended_run (ttl maxEntries : Nat) (order : KeyOrder) (wall : Time.Instant)
    (moves : List Move) : ((start ttl maxEntries order wall).run moves).Attended := by
  induction moves using List.reverseRecOn with
  | nil => exact fun key n member => nomatch member
  | append_singleton moves m ih =>
    rw [run_concat]
    exact attended_step _ _ m (takes_step _ m)
      (sound_run _ moves (sound_start ttl maxEntries order wall))
      (isUnique_run ttl maxEntries order wall moves) ih

end Course

def Caller.key (c : Caller) : CacheKey := keyFor c.identity c.scope

namespace Traffic

/-- In every run, the current slot of a key holds a client when all callers of the key have
returned. -/
theorem current_slot_filled (ttl maxEntries : Nat) (order : KeyOrder) (wall : Time.Instant)
    (moves : List Move) (key : CacheKey) (n : Nat)
    (current : (key, n) ∈ ((start ttl maxEntries order wall).run moves).world.cache.index)
    (returned : ∀ caller ∈ ((start ttl maxEntries order wall).run moves).callers, caller.key = key →
      caller.result? ≠ none) :
    (((start ttl maxEntries order wall).run moves).world.cache.held? n).isSome := by
  rw [run_start] at current returned ⊢
  cases empty : ((Course.start ttl maxEntries order wall).run moves).world.cache.held? n with
  | some entry => simp [Course.traffic, empty]
  | none =>
    obtain ⟨v, member, mine, place⟩ :=
      Course.attended_run ttl maxEntries order wall moves key n current empty
    have has_result := returned v.caller (List.mem_map.mpr ⟨v, member, rfl⟩) mine
    obtain ⟨r, result⟩ := Option.ne_none_iff_exists'.mp has_result
    have finished := place _ (Visit.place_of_result? v r result)
    cases finished

/-- A build fails; another caller of another identity has its client. -/
def oneFails : List Move :=
  List.flatten
    [[.call ⟨.bearer "alice", none⟩ ⟨none⟩, .call ⟨.bearer "bob", none⟩ ⟨none⟩],
      List.replicate 7 (.go 0), List.replicate 7 (.go 1),
      [.fail 0 (.invalidIdentity "credential rejected"), .succeed 1],
      List.replicate 4 (.go 0), List.replicate 4 (.go 1)]

theorem current_slot_filled_of_one :
    (keyFor ⟨.bearer "bob", none⟩ ⟨none⟩, 1) ∈
        ((start 60000 16 .asCame ⟨0, 0⟩).run oneFails).world.cache.index ∧
      (((start 60000 16 .asCame ⟨0, 0⟩).run oneFails).world.cache.held? 1).isSome := by
  have current : (keyFor ⟨.bearer "bob", none⟩ ⟨none⟩, 1) ∈
      ((start 60000 16 .asCame ⟨0, 0⟩).run oneFails).world.cache.index := by
    decide +kernel
  refine ⟨current, current_slot_filled 60000 16 .asCame ⟨0, 0⟩ oneFails _ 1 current ?_⟩
  intro caller member _
  have all : ((start 60000 16 .asCame ⟨0, 0⟩).run oneFails).callers.all fun c =>
      c.result?.isSome := by
    rfl
  exact Option.isSome_iff_ne_none.mp (List.all_eq_true.mp all caller member)

def droppedBuild : List Move :=
  .call ⟨.bearer "alice", none⟩ ⟨none⟩ :: List.replicate 7 (.go 0) ++ [.drop 0]

/-- When a caller was dropped while it built there is a current slot without a client, though nobody
is on the way. -/
theorem slot_leaked :
    (((start 60000 16 .asCame ⟨0, 0⟩).run droppedBuild).callers.all fun c => c.work.isNone) = true ∧
      ((start 60000 16 .asCame ⟨0, 0⟩).run droppedBuild).world.cache.size = 1 ∧
        ((start 60000 16 .asCame ⟨0, 0⟩).run droppedBuild).world.cache.clients = 0 :=
  ⟨rfl, rfl, rfl⟩

end Traffic
end ClusterGraph
