import Mathlib.Data.List.Forall2
import ClusterGraph.Proofs.Access.Ledger

/-!
# Caches that show clients

The current slots of a cache show a list of clients if they hold these for the same keys, in the
same order. What is done to such a cache can then be told from the list: what a lookup finds, what
stays when a client is put into a slot or a slot is dropped, and what the bound costs. If the
clients stand in the order in which they were built, the bound cuts the front of the list as a
ledger does (`Cache.index_enforceBound_of_shows`).
-/
namespace ClusterGraph
namespace Cache

/-- A current slot holds the client of an entry for its key. -/
def Shows (c : Cache) (e : CacheKey × Nat) (x : CacheKey × CacheEntry) : Prop :=
  e.1 = x.1 ∧ ∃ s, c.slots[e.2]? = some s ∧ s.key = x.1 ∧ s.entry = some x.2

variable {c : Cache} {key keep : CacheKey} {e : CacheKey × Nat} {x : CacheKey × CacheEntry}
  {olds : List (CacheKey × Nat)} {entries : List (CacheKey × CacheEntry)}

theorem Shows.held? (shows_ : c.Shows e x) : c.held? e.2 = some x.2 := by
  obtain ⟨-, s, there, -, held⟩ := shows_
  simp [Cache.held?, there, held]

/-- A change to an empty slot does not show. -/
theorem Shows.modify {n : Nat} (shows_ : c.Shows e x) (f : Slot → Slot)
    (empty : c.held? n = none) : (c.modify n f).Shows e x := by
  obtain ⟨key, s, there, rest⟩ := shows_
  have other : n ≠ e.2 := by
    rintro rfl
    simp [Cache.held?, there, rest.2] at empty
  exact ⟨key, s, by simp [Cache.modify, other, there], rest⟩

/-- Another slot at the end does not show. -/
theorem Shows.of_append {c' : Cache} {s : Slot} (slots : c'.slots = c.slots ++ [s])
    (shows_ : c.Shows e x) : c'.Shows e x := by
  obtain ⟨key, s, there, rest⟩ := shows_
  have bound := (List.getElem?_eq_some_iff.mp there).1
  exact ⟨key, s, by rw [slots, List.getElem?_append_left bound, there], rest⟩

/-! ## Looking up -/

theorem keys_of_shows (shown : List.Forall₂ c.Shows olds entries) :
    olds.map Prod.fst = entries.map Prod.fst := by
  induction shown with
  | nil => rfl
  | cons here _ ih => rw [List.map_cons, List.map_cons, here.1, ih]

theorem held_of_shows (shown : List.Forall₂ c.Shows olds entries) :
    olds.map (fun e => (e.1, c.held? e.2)) = entries.map fun x => (x.1, some x.2) := by
  induction shown with
  | nil => rfl
  | cons here _ ih => rw [List.map_cons, List.map_cons, here.held?, here.1, ih]

/-- What is looked up among slots that show entries is looked up among the entries. -/
theorem find?_of_shows (shown : List.Forall₂ c.Shows olds entries) (key : CacheKey) :
    (olds.find? (fun e => e.1 = key) = none ∧ entries.find? (fun x => x.1 = key) = none) ∨
      ∃ e x, olds.find? (fun e => e.1 = key) = some e ∧
        entries.find? (fun x => x.1 = key) = some x ∧ c.Shows e x := by
  induction shown with
  | nil => exact .inl ⟨rfl, rfl⟩
  | @cons e x olds entries here _ ih =>
    rw [List.find?_cons, List.find?_cons, here.1]
    by_cases same : x.1 = key
    · refine .inr ⟨e, x, ?_, ?_, here⟩ <;> simp [same]
    · simpa [same] using ih

theorem shows_filter (shown : List.Forall₂ c.Shows olds entries) (stays : CacheKey → Bool) :
    List.Forall₂ c.Shows (olds.filter fun e => stays e.1) (entries.filter fun x => stays x.1) :=
  List.rel_filter (fun e x shows_ => by simp [shows_.1]) shown

theorem index_purge (c : Cache) (now : Nat) (wall : Time.Instant) :
    (c.purge now wall).index =
      c.index.filter fun e => !(c.slots[e.2]?.any fun s => s.isStale c.ttl now wall) := by
  refine List.filter_congr fun e _ => ?_
  cases c.slots[e.2]? <;> rfl

/-! ## The bound -/

theorem clientsBeside_of_shows (n : Nat) (index : c.index = olds ++ [(keep, n)])
    (shown : List.Forall₂ c.Shows olds entries) (beside : keep ∉ olds.map Prod.fst) :
    c.clientsBeside keep = entries := by
  have front : (olds.filterMap fun e =>
      if e.1 = keep then none else (c.held? e.2).map fun entry => (e.1, entry)) = entries := by
    clear index
    induction shown with
    | nil => rfl
    | @cons e x olds entries here _ ih =>
      simp only [List.map_cons, List.mem_cons, not_or] at beside
      have different : e.1 ≠ keep := fun same => beside.1 same.symm
      rw [List.filterMap_cons_some (b := x), ih beside.2]
      rw [if_neg different, here.held?, here.1]
      rfl
  unfold clientsBeside
  rw [index, List.filterMap_append, front]
  simp

/-- The oldest client is the one that a ledger cuts. -/
theorem oldest?_of_shows (n : Nat) (index : c.index = olds ++ [(keep, n)])
    (shown : List.Forall₂ c.Shows olds entries) (beside : keep ∉ olds.map Prod.fst)
    (inOrder : entries.Pairwise fun a b => a.2.created ≤ b.2.created) :
    c.oldest? keep = (Ledger.front? (c.order c.slots.length) entries).map Prod.fst := by
  rw [oldest?, clientsBeside_of_shows n index shown beside, Ledger.eldest?_eq_front? inOrder]

/-- One entry goes with its key. -/
theorem length_filter_ne {α : Type} {es : List (CacheKey × α)}
    (distinct : (es.map Prod.fst).Nodup) (member : key ∈ es.map Prod.fst) :
    (es.filter fun e => e.1 ≠ key).length + 1 = es.length := by
  have left : (es.filter fun e => e.1 ≠ key).map Prod.fst = (es.map Prod.fst).erase key := by
    rw [distinct.erase_eq_filter, List.filter_map]
    refine congrArg (List.map Prod.fst) (List.filter_congr fun e _ => ?_)
    rw [Bool.eq_iff_iff]
    simp
  have fewer := List.length_erase_add_one member
  rw [← left, List.length_map, List.length_map] at fewer
  exact fewer

/-- If the clients stand in the order in which they were built, the front of their list is cut until
the cache is within its bound. -/
theorem index_enforceBound_of_shows (keep : CacheKey) (n fuel : Nat) (c : Cache)
    (olds : List (CacheKey × Nat)) (entries : List (CacheKey × CacheEntry))
    (index : c.index = olds ++ [(keep, n)]) (distinct : (c.index.map Prod.fst).Nodup)
    (shown : List.Forall₂ c.Shows olds entries)
    (inOrder : entries.Pairwise fun a b => a.2.created ≤ b.2.created) (enough : c.size ≤ fuel) :
    ∃ stay, (enforceBound keep fuel c).index = stay ++ [(keep, n)] ∧
      List.Forall₂ c.Shows stay
        (Ledger.cut (c.order c.slots.length) (olds.length + 1 - max c.maxEntries 1) entries) := by
  induction fuel generalizing c olds entries with
  | zero => simp [size, index] at enough
  | succ fuel ih =>
    have size : c.size = olds.length + 1 := by simp [Cache.size, index]
    obtain ⟨apart, beside⟩ : (olds.map Prod.fst).Nodup ∧ keep ∉ olds.map Prod.fst := by
      rw [index, List.map_append, List.nodup_append] at distinct
      exact ⟨distinct.1, fun member => distinct.2.2 keep member keep (by simp) rfl⟩
    unfold enforceBound
    rw [size] at enough ⊢
    split
    · next beyond =>
      have count : olds.length + 1 - max c.maxEntries 1 =
          olds.length - max c.maxEntries 1 + 1 := by omega
      rw [oldest?_of_shows n index shown beside inOrder, count, Ledger.cut]
      cases found : Ledger.front? (c.order c.slots.length) entries with
      | none => exact ⟨olds, index, shown⟩
      | some x =>
        have listed : x.1 ∈ olds.map Prod.fst := by
          rw [keys_of_shows shown]
          exact List.mem_map_of_mem (Ledger.mem_of_front? found)
        have left : (c.drop x.1).index = olds.filter (fun e => e.1 ≠ x.1) ++ [(keep, n)] := by
          have stays : keep ≠ x.1 := fun same => beside (same ▸ listed)
          simp [drop, index, stays]
        have kept : ((c.drop x.1).index.map Prod.fst).Nodup :=
          distinct.sublist (List.filter_sublist.map Prod.fst)
        have fewer : (olds.filter fun e => e.1 ≠ x.1).length + 1 = olds.length :=
          length_filter_ne apart listed
        have small : (c.drop x.1).size ≤ fuel := by
          rw [Cache.size, left, List.length_append, List.length_singleton, fewer]
          omega
        obtain ⟨stay, last, shows_⟩ := ih (c.drop x.1) _ _ left kept (shows_filter shown (· ≠ x.1))
          (inOrder.sublist List.filter_sublist) small
        rw [fewer] at shows_
        exact ⟨stay, last, shows_⟩
    · next within =>
      have none : olds.length + 1 - max c.maxEntries 1 = 0 := by omega
      rw [none]
      exact ⟨olds, index, shown⟩

/-! ## The slot at the end -/

section Opened
variable {n : Nat} {s : Slot} (index : c.index = olds ++ [(key, n)])
  (shown : List.Forall₂ c.Shows olds entries) (slot : c.slots[n]? = some s)
  (empty : s.entry = none)
include index shown slot empty

/-- The client that is put into the empty slot at the end shows at the end. -/
theorem shows_settle (mine : s.key = key) (entry : CacheEntry) :
    List.Forall₂ (c.modify n (·.settle entry)).Shows (c.modify n (·.settle entry)).index
      (entries ++ [(key, entry)]) := by
  have held : c.held? n = none := by simp [held?, slot, empty]
  have same : (c.modify n (·.settle entry)).index = olds ++ [(key, n)] := index
  rw [same]
  refine List.rel_append (shown.imp fun e x shows_ => shows_.modify _ held) (.cons ?_ .nil)
  exact ⟨rfl, s.settle entry, by simp [modify, slot], mine, rfl⟩

/-- If the empty slot at the end is dropped, the others show what they did. -/
theorem shows_sweep (others : ∀ x ∈ entries, x.1 ≠ key) (ticket : Nat) :
    List.Forall₂ ((c.modify n (·.leave ticket)).sweep key n).Shows
      ((c.modify n (·.leave ticket)).sweep key n).index entries := by
  have held : c.held? n = none := by simp [held?, slot, empty]
  have different : ∀ e ∈ olds, e.1 ≠ key := by
    intro e member same
    have listed : key ∈ entries.map Prod.fst := by
      rw [← keys_of_shows shown, ← same]
      exact List.mem_map_of_mem member
    obtain ⟨x, there, mine⟩ := List.mem_map.mp listed
    exact others x there mine
  have found : (c.modify n (·.leave ticket)).find? key = some n := by
    have first : olds.find? (fun e => e.1 = key) = none :=
      List.find?_eq_none.mpr fun e member => by simpa using different e member
    change (c.index.find? fun e => e.1 = key).map Prod.snd = some n
    simp [index, first]
  have left : (c.index.filter fun e => e.1 ≠ key) = olds := by
    have all : (olds.filter fun e => e.1 ≠ key) = olds :=
      List.filter_eq_self.mpr fun e member => by simpa using different e member
    rw [index, List.filter_append, all]
    simp
  have dropped : (c.modify n (·.leave ticket)).sweep key n =
      (c.modify n (·.leave ticket)).drop key :=
    if_pos ⟨found, by simp [held]⟩
  have same : ((c.modify n (·.leave ticket)).drop key).index = olds := left
  rw [dropped, same]
  exact shown.imp fun e x shows_ => shows_.modify _ held

end Opened

end Cache
end ClusterGraph
