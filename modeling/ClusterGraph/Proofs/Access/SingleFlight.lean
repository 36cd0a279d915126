import ClusterGraph.Proofs.Access.Isolation
import ClusterGraph.Proofs.Access.Turns

/-!
# One build at a time

How many builds for one key are in flight. As long as none of them fails or is abandoned, and the
identity is neither evicted nor expires, there is at most one: every empty slot of the key is its
current one, and whoever builds has the turn of an empty slot. A failure takes the slot out of the
index while others still queue for it; the next of them builds there, and whoever comes later builds
in a new slot, at the same time.
-/
namespace ClusterGraph

/-! ## Builds of a key -/

namespace OrderBook

/-- A build for a key is in flight. -/
def FliesFor (b : OrderBook) (key : CacheKey) (n : Nat) : Prop :=
  b[n]? = some ⟨key.identity, key.scope, .inFlight⟩

/-- No build for a key has failed or was abandoned. -/
def Unfailed (b : OrderBook) (key : CacheKey) : Prop :=
  ∀ (n : Nat) (progress : Progress), b[n]? = some ⟨key.identity, key.scope, progress⟩ →
    progress = .inFlight ∨ progress = .succeeded

theorem unfailed_of_place (b : OrderBook) (identity : Identity) (scope : Scope) (key : CacheKey)
    (h : (b.place identity scope).Unfailed key) : b.Unfailed key :=
  fun n progress found => h n progress (getElem?_place b identity scope n _ found)

theorem unfailed_of_finish (b : OrderBook) (m : Nat) (p : Progress) (key : CacheKey)
    (h : (b.finish m p).Unfailed key) : b.Unfailed key := by
  intro n progress found
  by_cases flying : progress = .inFlight
  · exact Or.inl flying
  · refine h n progress ?_
    unfold finish
    rw [List.getElem?_modify, found]
    simp [flying]

/-- A build that is in flight after another one has ended was so before. -/
theorem fliesFor_of_finish (b : OrderBook) (m : Nat) (p : Progress) (ended : p ≠ .inFlight)
    (key : CacheKey) (n : Nat) (h : (b.finish m p).FliesFor key n) :
    b.FliesFor key n ∧ n ≠ m := by
  unfold FliesFor finish at h
  rw [List.getElem?_modify] at h
  obtain ⟨o, found, changed⟩ := Option.map_eq_some_iff.mp h
  by_cases same : m = n
  · simp only [same, if_true] at changed
    split at changed
    · exact absurd (congrArg Order.progress changed) ended
    · next landed => exact absurd (congrArg Order.progress changed) landed
  · simp only [same, if_false] at changed
    subst changed
    exact ⟨found, fun here => same here.symm⟩

theorem key_of_fliesFor (b : OrderBook) (k key : CacheKey) (n : Nat) (mine : b.IsFor k n)
    (flies : b.FliesFor key n) : k = key := by
  obtain ⟨progress, found⟩ := mine
  have same := Option.some.inj (found.symm.trans flies)
  cases k
  cases key
  cases same
  rfl

theorem isOver_iff (b : OrderBook) (n : Nat) :
    b.isOver n = true ↔ ∃ o, b[n]? = some o ∧ o.progress ≠ .inFlight := by
  unfold isOver
  cases b[n]? <;> simp

theorem isOver_place (b : OrderBook) (identity : Identity) (scope : Scope) (n : Nat)
    (h : b.isOver n = true) : (b.place identity scope).isOver n = true := by
  obtain ⟨o, found, landed⟩ := (b.isOver_iff n).mp h
  exact (OrderBook.isOver_iff _ n).mpr ⟨o, getElem?_place b identity scope n o found, landed⟩

theorem isOver_finish (b : OrderBook) (m : Nat) (p : Progress) (n : Nat)
    (h : b.isOver n = true) : (b.finish m p).isOver n = true := by
  obtain ⟨o, found, landed⟩ := (b.isOver_iff n).mp h
  refine (OrderBook.isOver_iff _ n).mpr ⟨o, ?_, landed⟩
  unfold finish
  rw [List.getElem?_modify, found]
  simp [landed]

/-- A build that is over gives its client, if none has failed. -/
theorem result_of_unfailed (b : OrderBook) (key : CacheKey) (unfailed : b.Unfailed key) (n : Nat)
    (mine : b.IsFor key n) (ended : b.isOver n = true) :
    b.result (key.clientOf n) = .ok (key.clientOf n) := by
  obtain ⟨progress, found⟩ := mine
  obtain ⟨o, found', landed⟩ := (b.isOver_iff n).mp ended
  cases Option.some.inj (found.symm.trans found')
  have succeeded : progress = .succeeded := (unfailed n progress found).resolve_left landed
  unfold result
  simp only [CacheKey.clientOf, found, Option.map_some, succeeded]

end OrderBook

/-! ## Empty slots are current -/

/-- No key has two current slots, and the empty slots of a key are current. -/
structure Cache.Tidy (key : CacheKey) (c : Cache) : Prop where
  unique : c.IsUnique
  current : ∀ n, c.keyOf? n = some key → c.held? n = none → (key, n) ∈ c.index

namespace Cache
variable {key : CacheKey}

/-- A change to one slot that takes no client away. -/
theorem tidy_modify (c : Cache) (tidy : c.Tidy key) (n : Nat) (f : Slot → Slot)
    (keeps : ∀ s, (f s).key = s.key) (held : ∀ s, (f s).entry = none → s.entry = none) :
    (c.modify n f).Tidy key := by
  refine ⟨tidy.unique, ?_⟩
  intro m made empty
  refine tidy.current m ((keyOf?_modify c n m f keeps).symm.trans made) ?_
  unfold held? modify at empty
  rw [List.getElem?_modify] at empty
  unfold held?
  cases found : c.slots[m]? with
  | none => rfl
  | some s =>
    by_cases same : n = m
    · simp only [found, same, if_true] at empty
      exact held s empty
    · simpa [found, same] using empty

/-- A loss of current slots that spares the empty ones of the key. -/
theorem tidy_of_index (c c' : Cache) (tidy : c.Tidy key) (slots : c'.slots = c.slots)
    (index : c'.index ⊆ c.index)
    (spared : ∀ n, (key, n) ∈ c.index → c.held? n = none → (key, n) ∈ c'.index) :
    c'.Tidy key := by
  refine ⟨isUnique_of_subset c c' tidy.unique index, ?_⟩
  unfold keyOf? held?
  rw [slots]
  intro n made empty
  exact spared n (tidy.current n made empty) empty

theorem tidy_evict (c : Cache) (tidy : c.Tidy key) (identity : Identity)
    (other : key.identity ≠ identity) : (c.evict identity).Tidy key := by
  refine tidy_of_index c _ tidy rfl (index_evict_subset c identity) ?_
  intro n member _
  exact List.mem_filter.mpr ⟨member, by simpa using other⟩

theorem tidy_sweep (c : Cache) (tidy : c.Tidy key) (k : CacheKey) (slot : Nat) (other : key ≠ k) :
    (c.sweep k slot).Tidy key := by
  refine tidy_of_index c _ tidy (slots_sweep c k slot) (index_sweep_subset c k slot) ?_
  intro n member _
  unfold sweep
  split
  · exact List.mem_filter.mpr ⟨member, by simpa using other⟩
  · exact member

/-- Empty slots are never stale. -/
theorem tidy_purge (c : Cache) (tidy : c.Tidy key) (now : Nat) (wall : Time.Instant) :
    (c.purge now wall).Tidy key := by
  refine tidy_of_index c _ tidy rfl (index_purge_subset c now wall) ?_
  intro n member empty
  refine List.mem_filter.mpr ⟨member, ?_⟩
  cases found : c.slots[n]? with
  | none => rfl
  | some s =>
    have no_entry : s.entry = none := by simpa [held?, found] using empty
    simp [Slot.isStale, no_entry]

theorem tidy_slotFor (c : Cache) (tidy : c.Tidy key) (k : CacheKey) (now : Nat)
    (wall : Time.Instant) : (c.slotFor k now wall).1.Tidy key := by
  rcases c.slotFor_cases k now wall with ⟨n, found, _⟩ | made
  · rw [found]
    exact tidy
  · rw [made]
    refine ⟨isUnique_makeSlot c k tidy.unique, ?_⟩
    intro n mine empty
    rw [keyOf?_makeSlot] at mine
    rw [held?_makeSlot] at empty
    split at mine
    · next new =>
      cases mine
      exact c.mem_makeSlot key tidy.unique _ (Or.inr (by rw [new]))
    · have member := tidy.current n mine empty
      by_cases same : key = k
      · subst same
        -- An empty slot of the key would have been found.
        have kept := c.slotFor_of_empty tidy.unique key n now wall member mine empty
        rw [made] at kept
        have length := congrArg (fun r => r.1.slots.length) kept
        simp at length
      · exact c.mem_makeSlot k tidy.unique _ (Or.inl ⟨member, same, empty⟩)

end Cache

/-! ## Callers -/

namespace Passage
variable {key : CacheKey}

def Going (b : OrderBook) : Passage → Prop
  | collecting _ _ order => b.isOver order = true
  | leaving _ _ _ => False
  | sweeping _ _ => False
  | _ => True

theorem going_mono (b b' : OrderBook) (p : Passage)
    (ended : ∀ n, b.isOver n = true → b'.isOver n = true) (going : p.Going b) : p.Going b' := by
  cases p with
  | collecting slot ticket order => exact ended order going
  | _ => exact going

theorem first_going (b : OrderBook) (identity : Identity) : (first identity).Going b := by
  unfold first
  split <;> trivial

theorem next_tidy (k : CacheKey) (w : World OrderBook) (p : Passage) (tidy : w.cache.Tidy key)
    (kept : key.identity = k.identity → p ≠ expelling)
    (going : key = k → p.Going w.backend) : (p.next k w).2.cache.Tidy key := by
  cases p with
  | expelling => exact Cache.tidy_evict w.cache tidy k.identity fun same => kept same rfl
  | seeking now =>
    simp only [next, World.seek]
    split
    · exact tidy
    · exact Cache.tidy_slotFor w.cache tidy k now w.wall
  | entering slot =>
    simp only [next, World.enter]
    split
    · exact tidy
    · refine Cache.tidy_modify w.cache tidy slot _ (fun s => s.key_join _) ?_
      intro s empty
      exact (s.entry_join _).symm.trans empty
  | settling slot ticket order created =>
    refine Cache.tidy_modify w.cache tidy slot _ (fun _ => rfl) ?_
    rintro s ⟨⟩
  | leaving slot ticket e =>
    refine Cache.tidy_modify w.cache tidy slot _ (fun s => s.key_leave ticket) ?_
    intro s empty
    exact (s.entry_leave ticket).symm.trans empty
  | sweeping slot e => exact Cache.tidy_sweep w.cache tidy k slot fun same => going same
  | _ => exact tidy

theorem undo_tidy (w : World OrderBook) (p : Passage) (tidy : w.cache.Tidy key) :
    (p.undo w).cache.Tidy key := by
  have left (slot ticket : Nat) : (w.cache.modify slot (·.leave ticket)).Tidy key := by
    refine Cache.tidy_modify w.cache tidy slot _ (fun s => s.key_leave ticket) ?_
    intro s empty
    exact (s.entry_leave ticket).symm.trans empty
  cases p with
  | waiting slot ticket => exact left slot ticket
  | building slot ticket order => exact left slot ticket
  | _ => exact tidy

/-- A build that does not fail leads to a client. -/
theorem next_going (w : World OrderBook) (p : Passage) (fits : p.Fits key w)
    (unfailed : w.backend.Unfailed key) (going : p.Going w.backend) :
    (p.next key w).1.Going (p.next key w).2.backend := by
  cases p with
  | building slot ticket order =>
    simp only [next]
    split
    · next ended => exact ended
    · trivial
  | collecting slot ticket order =>
    have given := w.backend.result_of_unfailed key unfailed order (fits.order order rfl) going
    simp only [next, given]
    trivial
  | leaving slot ticket e | sweeping slot e => cases going
  | arriving | seeking now | entering slot | checking slot ticket | waiting slot ticket
  | proceeding slot ticket =>
    simp only [next]
    split <;> trivial
  | _ => trivial

theorem isOver_next (k : CacheKey) (w : World OrderBook) (p : Passage) (n : Nat)
    (h : w.backend.isOver n = true) : (p.next k w).2.backend.isOver n = true := by
  rcases backend_next k w p with same | ⟨_, _, _, placed⟩
  · rw [same]
    exact h
  · rw [placed]
    exact w.backend.isOver_place k.identity k.scope n h

theorem unfailed_of_next (k : CacheKey) (w : World OrderBook) (p : Passage)
    (h : (p.next k w).2.backend.Unfailed key) : w.backend.Unfailed key := by
  rcases backend_next k w p with same | ⟨_, _, _, placed⟩
  · rw [← same]
    exact h
  · rw [placed] at h
    exact w.backend.unfailed_of_place k.identity k.scope key h

/-- A build in flight is one that was in flight, or that the caller has just started. -/
theorem fliesFor_of_next (k : CacheKey) (w : World OrderBook) (p : Passage) (n : Nat)
    (h : (p.next k w).2.backend.FliesFor key n) :
    w.backend.FliesFor key n ∨
      (k = key ∧ ∃ slot ticket, (p.next k w).1 = building slot ticket n) := by
  rcases backend_next k w p with same | ⟨slot, ticket, rfl, placed⟩
  · rw [same] at h
    exact Or.inl h
  · rw [placed] at h
    unfold OrderBook.FliesFor OrderBook.place at h
    rw [List.getElem?_append] at h
    split at h
    · exact Or.inl h
    · next beyond =>
      have bound : n - w.backend.length < 1 := (List.getElem?_eq_some_iff.mp h).1
      have here : n = w.backend.length := by omega
      subst here
      rw [Nat.sub_self] at h
      have for_key := Option.some.inj h
      refine Or.inr ⟨?_, slot, ticket, rfl⟩
      cases k
      cases key
      cases for_key
      rfl

theorem wall_undo (w : World OrderBook) (p : Passage) : (p.undo w).wall = w.wall := by
  cases p <;> rfl

theorem isOver_undo (w : World OrderBook) (p : Passage) (n : Nat)
    (h : w.backend.isOver n = true) : (p.undo w).backend.isOver n = true := by
  cases p with
  | building slot ticket order => exact w.backend.isOver_finish order .abandoned n h
  | _ => exact h

theorem unfailed_of_undo (w : World OrderBook) (p : Passage)
    (h : (p.undo w).backend.Unfailed key) : w.backend.Unfailed key := by
  cases p with
  | building slot ticket order => exact w.backend.unfailed_of_finish order .abandoned key h
  | _ => exact h

/-- The build of a caller that is dropped is no longer in flight. -/
theorem fliesFor_of_undo (w : World OrderBook) (p : Passage) (n : Nat)
    (h : (p.undo w).backend.FliesFor key n) :
    w.backend.FliesFor key n ∧ ∀ slot ticket, p ≠ building slot ticket n := by
  cases p with
  | building slot ticket order =>
    obtain ⟨before, other⟩ := w.backend.fliesFor_of_finish order .abandoned nofun key n h
    refine ⟨before, ?_⟩
    intro s t same
    cases same
    exact other rfl
  | _ => exact ⟨h, nofun⟩

/-- Whoever watches a build goes on watching it as long as it is in flight. -/
theorem next_building (k : CacheKey) (w : World OrderBook) (slot ticket n : Nat)
    (flies : w.backend.FliesFor key n) :
    ((building slot ticket n).next k w).1 = building slot ticket n := by
  have not_over : w.backend.isOver n ≠ true := by
    intro ended
    obtain ⟨o, found, landed⟩ := (w.backend.isOver_iff n).mp ended
    cases Option.some.inj (flies.symm.trans found)
    exact landed rfl
  simp only [next, if_neg not_over]

/-- Of the builds in flight after a step, the caller watches its own; the others it did not watch
before. -/
theorem watched_of_next (k : CacheKey) (w : World OrderBook) (p : Passage) (fits : p.Fits k w)
    (n : Nat) (h : (p.next k w).2.backend.FliesFor key n) :
    (k = key ∧ ∃ slot ticket, (p.next k w).1 = building slot ticket n) ∨
      (w.backend.FliesFor key n ∧ ∀ slot ticket, p ≠ building slot ticket n) := by
  rcases fliesFor_of_next k w p n h with before | started
  · by_cases watching : ∃ slot ticket, p = building slot ticket n
    · obtain ⟨slot, ticket, rfl⟩ := watching
      have mine := w.backend.key_of_fliesFor k key n (fits.order n rfl) before
      exact Or.inl ⟨mine, slot, ticket, next_building k w slot ticket n before⟩
    · refine Or.inr ⟨before, ?_⟩
      intro slot ticket here
      exact watching ⟨slot, ticket, here⟩
  · exact Or.inl started

end Passage

/-! ## Runs -/

namespace Course
variable {key : CacheKey}

/-- Nothing of a key has come to nothing: its empty slots are current, its identity has not expired
and is not about to lose its clients, no caller of it has seen a build fail, and every build in
flight for it is watched by a caller of it. -/
structure Flowing (key : CacheKey) (c : Course) : Prop where
  tidy : c.world.cache.Tidy key
  valid : key.identity.isExpiredAt c.world.wall = false
  kept : ∀ v ∈ c.visits, key.identity = v.identity → v.place ≠ some .expelling
  going : ∀ v ∈ c.visits, key = v.key → ∀ p, v.place = some p → p.Going c.world.backend
  watched : ∀ n, c.world.backend.FliesFor key n → ∃ v ∈ c.visits, v.key = key ∧
    ∃ slot ticket, v.place = some (.building slot ticket n)

theorem flowing_start (ttl maxEntries : Nat) (order : KeyOrder) (wall : Time.Instant)
    (valid : key.identity.isExpiredAt wall = false) :
    (start ttl maxEntries order wall).Flowing key := by
  refine ⟨⟨?_, ?_⟩, valid, ?_, ?_, ?_⟩
  · intro k n m h
    cases h
  · intro n made
    cases made
  · intro v member
    cases member
  · intro v member
    cases member
  · intro n flies
    cases flies

/-- A change that moves no caller. -/
theorem flowing_of_world (c : Course) (w : World OrderBook) (flowing : c.Flowing key)
    (tidy : w.cache.Tidy key) (valid : key.identity.isExpiredAt w.wall = false)
    (ended : ∀ n, c.world.backend.isOver n = true → w.backend.isOver n = true)
    (flies : ∀ n, w.backend.FliesFor key n → c.world.backend.FliesFor key n) :
    Flowing key ⟨w, c.visits⟩ where
  tidy := tidy
  valid := valid
  kept := flowing.kept
  going v member mine p place :=
    Passage.going_mono _ _ p ended (flowing.going v member mine p place)
  watched n h := flowing.watched n (flies n h)

/-- A change that moves one caller. -/
theorem flowing_of_set (c : Course) (w : World OrderBook) (k : Nat) (old new : Visit)
    (flowing : c.Flowing key) (found : c.visits[k]? = some old)
    (tidy : w.cache.Tidy key) (valid : key.identity.isExpiredAt w.wall = false)
    (ended : ∀ n, c.world.backend.isOver n = true → w.backend.isOver n = true)
    (kept : key.identity = new.identity → new.place ≠ some .expelling)
    (going : key = new.key → ∀ p, new.place = some p → p.Going w.backend)
    (watched : ∀ n, w.backend.FliesFor key n →
      (∃ slot ticket, new.key = key ∧ new.place = some (.building slot ticket n)) ∨
        (c.world.backend.FliesFor key n ∧
          ∀ slot ticket, old.place ≠ some (.building slot ticket n))) :
    Flowing key ⟨w, c.visits.set k new⟩ := by
  have bound : k < c.visits.length := (List.getElem?_eq_some_iff.mp found).1
  refine ⟨tidy, valid, ?_, ?_, ?_⟩
  · intro v member
    rcases List.mem_or_eq_of_mem_set member with before | rfl
    · exact flowing.kept v before
    · exact kept
  · intro v member mine p place
    rcases List.mem_or_eq_of_mem_set member with before | rfl
    · exact Passage.going_mono _ _ p ended (flowing.going v before mine p place)
    · exact going mine p place
  · intro n flies
    rcases watched n flies with ⟨slot, ticket, mine, place⟩ | ⟨before, elsewhere⟩
    · exact ⟨new, List.mem_set bound new, mine, slot, ticket, place⟩
    · obtain ⟨v, member, mine, slot, ticket, place⟩ := flowing.watched n before
      obtain ⟨j, at_j⟩ := List.mem_iff_getElem?.mp member
      have other : k ≠ j := by
        intro same
        subst same
        cases Option.some.inj (found.symm.trans at_j)
        exact elsewhere slot ticket place
      refine ⟨v, ?_, mine, slot, ticket, place⟩
      refine List.mem_of_getElem? (i := j) ?_
      rw [List.getElem?_set_ne other]
      exact at_j

theorem unfailed_of_step (c : Course) (m : Move) (h : (c.step m).world.backend.Unfailed key) :
    c.world.backend.Unfailed key := by
  cases m with
  | go k =>
    simp only [step] at h
    split at h
    · exact Passage.unfailed_of_next _ c.world _ h
    · exact h
  | drop k =>
    simp only [step] at h
    split at h
    · split at h
      · exact Passage.unfailed_of_undo c.world _ h
      · exact h
    · exact h
  | succeed n => exact OrderBook.unfailed_of_finish _ n _ key h
  | fail n e => exact OrderBook.unfailed_of_finish _ n _ key h
  | purge =>
    rw [step, c.world.backend_purge] at h
    exact h
  | _ => exact h

theorem unfailed_of_run (c : Course) (moves : List Move)
    (h : (c.run moves).world.backend.Unfailed key) : c.world.backend.Unfailed key := by
  induction moves generalizing c with
  | nil => exact h
  | cons m rest ih => exact unfailed_of_step c m (ih (c.step m) h)

theorem flowing_finish (c : Course) (flowing : c.Flowing key) (n : Nat) (p : Progress)
    (ended : p ≠ .inFlight) :
    Flowing key ⟨c.world.mapBackend (OrderBook.finish n p), c.visits⟩ :=
  flowing_of_world c _ flowing flowing.tidy flowing.valid
    (fun m => OrderBook.isOver_finish c.world.backend n p m)
    fun m h => (OrderBook.fliesFor_of_finish c.world.backend n p ended key m h).1

theorem flowing_step (c : Course) (m : Move) (sound : c.Sound) (flowing : c.Flowing key)
    (unfailed : c.world.backend.Unfailed key) (kept : m ≠ .evict key.identity)
    (valid : ∀ wall, m = .setWall wall → key.identity.isExpiredAt wall = false) :
    (c.step m).Flowing key := by
  cases m with
  | call identity scope =>
    refine ⟨flowing.tidy, flowing.valid, ?_, ?_, ?_⟩
    · intro v member
      rcases List.mem_append.mp member with old | new
      · exact flowing.kept v old
      · cases List.mem_singleton.mp new
        unfold Passage.first
        split <;> rintro - ⟨⟩
    · intro v member mine p place
      rcases List.mem_append.mp member with old | new
      · exact flowing.going v old mine p place
      · cases List.mem_singleton.mp new
        cases place
        exact Passage.first_going _ identity
    · intro n flies
      obtain ⟨v, member, watching⟩ := flowing.watched n flies
      exact ⟨v, List.mem_append_left _ member, watching⟩
  | go k =>
    simp only [step]
    split
    · next identity scope p found =>
      have member := List.mem_of_getElem? found
      have going (mine : key = keyFor identity scope) : p.Going c.world.backend :=
        flowing.going _ member mine p rfl
      have kept_p (mine : key.identity = identity) : p ≠ .expelling := by
        intro here
        exact flowing.kept _ member mine (congrArg some here)
      refine flowing_of_set c _ k _ _ flowing found ?_ ?_ ?_ ?_ ?_ ?_
      · exact Passage.next_tidy (keyFor identity scope) c.world p flowing.tidy kept_p going
      · rw [Passage.wall_next]
        exact flowing.valid
      · exact Passage.isOver_next _ c.world p
      · intro mine here
        have expired := Passage.expired_of_next_expelling _ c.world p (Option.some.inj here)
        have same : (keyFor identity scope).identity = key.identity := mine.symm
        rw [same, flowing.valid] at expired
        cases expired
      · intro mine p' place
        cases place
        have fits := sound.visits _ member p rfl
        subst mine
        exact Passage.next_going c.world p fits unfailed (going rfl)
      · intro n flies
        have fits := sound.visits _ member p rfl
        rcases Passage.watched_of_next _ c.world p fits n flies with
          ⟨mine, slot, ticket, here⟩ | ⟨before, elsewhere⟩
        · exact Or.inl ⟨slot, ticket, mine, congrArg some here⟩
        · refine Or.inr ⟨before, ?_⟩
          intro slot ticket here
          exact elsewhere slot ticket (Option.some.inj here)
    · exact flowing
  | drop k =>
    simp only [step]
    split
    · next identity scope p found =>
      split
      · refine flowing_of_set c _ k _ _ flowing found ?_ ?_ ?_ ?_ ?_ ?_
        · exact Passage.undo_tidy c.world p flowing.tidy
        · rw [Passage.wall_undo]
          exact flowing.valid
        · exact Passage.isOver_undo c.world p
        · rintro - ⟨⟩
        · rintro - p ⟨⟩
        · intro n flies
          obtain ⟨before, elsewhere⟩ := Passage.fliesFor_of_undo c.world p n flies
          refine Or.inr ⟨before, ?_⟩
          intro slot ticket here
          exact elsewhere slot ticket (Option.some.inj here)
      · exact flowing
    · exact flowing
  | succeed n => exact flowing_finish c flowing n .succeeded (by rintro ⟨⟩)
  | fail n e => exact flowing_finish c flowing n (.failed e) (by rintro ⟨⟩)
  | pass d =>
    exact flowing_of_world c _ flowing flowing.tidy flowing.valid (fun _ h => h) fun _ h => h
  | setWall wall =>
    exact flowing_of_world c _ flowing flowing.tidy (valid wall rfl) (fun _ h => h) fun _ h => h
  | evict identity =>
    have other : key.identity ≠ identity := fun same => kept (congrArg Move.evict same.symm)
    exact flowing_of_world c _ flowing (Cache.tidy_evict c.world.cache flowing.tidy identity other)
      flowing.valid (fun _ h => h) fun _ h => h
  | purge =>
    simp only [step]
    rcases c.world.purge_cases with ended | purged
    · rw [ended]
      exact flowing_of_world c _ flowing flowing.tidy flowing.valid (fun _ h => h) fun _ h => h
    · rw [purged]
      exact flowing_of_world c _ flowing
        (Cache.tidy_purge c.world.cache flowing.tidy c.world.now c.world.wall) flowing.valid
        (fun _ h => h) fun _ h => h

/-- Two builds of a flowing key that are in flight are one. -/
theorem eq_of_fliesFor (c : Course) (sound : c.Sound) (orderly : c.Orderly)
    (flowing : c.Flowing key) (m n : Nat) (hm : c.world.backend.FliesFor key m)
    (hn : c.world.backend.FliesFor key n) : m = n := by
  obtain ⟨v, member, mine, slot, ticket, place⟩ := flowing.watched m hm
  obtain ⟨u, member', theirs, slot', ticket', place'⟩ := flowing.watched n hn
  have current (v : Visit) (member : v ∈ c.visits) (mine : v.key = key) (slot ticket order : Nat)
      (place : v.place = some (.building slot ticket order)) :
      (key, slot) ∈ c.world.cache.index := by
    have made := (sound.visits v member _ place).slot slot rfl
    rw [mine] at made
    have turn := (orderly.visits v member _ place).turn slot ticket rfl
    exact flowing.tidy.current slot made (c.world.cache.held?_of_isTurn slot ticket turn)
  have one_slot : slot = slot' := flowing.tidy.unique key slot slot'
    (current v member mine slot ticket m place) (current u member' theirs slot' ticket' n place')
  subst one_slot
  obtain ⟨j, at_j⟩ := List.mem_iff_getElem?.mp member
  obtain ⟨k, at_k⟩ := List.mem_iff_getElem?.mp member'
  have one_caller := turn_unique c orderly j k v u _ _ slot ticket ticket' at_j place rfl at_k
    place' rfl
  subst one_caller
  cases Option.some.inj (at_j.symm.trans at_k)
  cases Option.some.inj (place.symm.trans place')
  rfl

theorem flowing_run (c : Course) (moves : List Move) (sound : c.Sound) (flowing : c.Flowing key)
    (unfailed : (c.run moves).world.backend.Unfailed key) (kept : .evict key.identity ∉ moves)
    (valid : ∀ wall, .setWall wall ∈ moves → key.identity.isExpiredAt wall = false) :
    (c.run moves).Flowing key := by
  induction moves generalizing c with
  | nil => exact flowing
  | cons m rest ih =>
    have unfailed_now : c.world.backend.Unfailed key := unfailed_of_run c (m :: rest) unfailed
    have kept_now : m ≠ .evict key.identity := fun same => kept (same ▸ List.mem_cons_self)
    have valid_now (wall : Time.Instant) (same : m = .setWall wall) :
        key.identity.isExpiredAt wall = false := valid wall (same ▸ List.mem_cons_self)
    exact ih (c.step m) (sound_step c m sound)
      (flowing_step c m sound flowing unfailed_now kept_now valid_now) unfailed
      (fun member => kept (List.mem_cons_of_mem m member))
      fun wall member => valid wall (List.mem_cons_of_mem m member)

end Course

namespace Traffic

/-- As long as no build for a key fails or is abandoned, and its identity is neither evicted nor
expires, at most one of its builds is in flight. -/
theorem one_build_in_flight (ttl maxEntries : Nat) (order : KeyOrder) (wall : Time.Instant)
    (moves : List Move) (key : CacheKey) (kept : .evict key.identity ∉ moves)
    (valid : key.identity.isExpiredAt wall = false)
    (valid_later : ∀ later, .setWall later ∈ moves → key.identity.isExpiredAt later = false)
    (unfailed : ((start ttl maxEntries order wall).run moves).world.backend.Unfailed key)
    (m n : Nat)
    (hm : ((start ttl maxEntries order wall).run moves).world.backend.FliesFor key m)
    (hn : ((start ttl maxEntries order wall).run moves).world.backend.FliesFor key n) : m = n := by
  rw [run_start] at unfailed hm hn
  have sound := Course.sound_start ttl maxEntries order wall
  refine Course.eq_of_fliesFor _ (Course.sound_run _ moves sound) ?_ ?_ m n hm hn
  · exact Course.orderly_run _ moves (Course.orderly_start ttl maxEntries order wall)
  · exact Course.flowing_run _ moves sound
      (Course.flowing_start ttl maxEntries order wall valid) unfailed
      kept valid_later

/-- A build fails while a second caller waits for its turn. The slot is lost to the index before a
third caller comes, which therefore builds in a new slot; the second one builds in the old slot. -/
def failedBuild : List Move :=
  List.flatten
    [List.replicate 3 (.call ⟨.bearer "alice", none⟩ ⟨none⟩), List.replicate 7 (.go 0),
      List.replicate 5 (.go 1), [.fail 0 (.invalidIdentity "credential rejected")],
      List.replicate 4 (.go 0), List.replicate 7 (.go 2), List.replicate 3 (.go 1)]

/-- Where a build fails there may be two in flight for one key, though nobody is dropped and nothing
is evicted or purged. -/
theorem two_builds_in_flight :
    (failedBuild.all fun
      | .drop _ => false
      | .evict _ => false
      | .purge => false
      | _ => true) = true ∧
      ((start 60000 16 .asCame ⟨0, 0⟩).run failedBuild).world.backend.FliesFor
        ⟨⟨.bearer "alice", none⟩, ⟨none⟩⟩ 1 ∧
      ((start 60000 16 .asCame ⟨0, 0⟩).run failedBuild).world.backend.FliesFor
        ⟨⟨.bearer "alice", none⟩, ⟨none⟩⟩ 2 :=
  ⟨rfl, rfl, rfl⟩

end Traffic
end ClusterGraph
