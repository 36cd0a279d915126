import Mathlib.Data.List.Induction
import ClusterGraph.Proofs.Access.Changes
import ClusterGraph.Proofs.Access.Isolation

/-!
# When a client is constructed

A client is constructed when it is put into its slot. The stamp that it bears there, from which its
time to live counts, was taken after its build was over and before it was put there; the clock may
move in between. Whatever is in a slot was put there in the course of the run
(`Course.puts_of_held`), not before its stamp (`Course.created_le_of_puts`), and every client is put
into one slot at one moment (`Course.puts_once`).
-/
namespace ClusterGraph

/-! ## One step -/

namespace Passage

/-- A caller stamps its client with the time that it sees. -/
theorem settling_of_next (key : CacheKey) (w : World OrderBook) (p : Passage)
    (slot ticket order created : Nat)
    (h : (p.next key w).1 = settling slot ticket order created) : created = w.now := by
  cases p with
  | stamping s t o =>
    cases h
    rfl
  | arriving | seeking now | entering s | checking s t | waiting s t | proceeding s t
  | building s t o | collecting s t o =>
    simp only [next] at h
    split at h <;> cases h
  | _ => cases h

theorem held?_undo (w : World OrderBook) (p : Passage) (n : Nat) :
    (p.undo w).cache.held? n = w.cache.held? n := by
  cases p with
  | waiting slot ticket => exact w.cache.held?_leave slot n ticket
  | building slot ticket order => exact w.cache.held?_leave slot n ticket
  | _ => rfl

/-- A client that is in a slot after a step of a caller was there before, or the caller has put it
there with its stamp. -/
theorem held?_next (key : CacheKey) (w : World OrderBook) (p : Passage) (n : Nat)
    (entry : CacheEntry) (found : (p.next key w).2.cache.held? n = some entry) :
    w.cache.held? n = some entry ∨
      ∃ ticket order, p = settling n ticket order entry.created ∧
        entry.client = key.clientOf order := by
  cases p with
  | settling slot ticket order created =>
    rcases w.cache.held?_settle slot n _ entry found with ⟨rfl, rfl⟩ | old
    · exact Or.inr ⟨ticket, order, rfl, rfl⟩
    · exact Or.inl old
  | seeking now =>
    rcases w.seek_cases key now with ended | ⟨_, old, _⟩ | made
    · simp only [next, ended] at found
      exact Or.inl found
    · simp only [next, old] at found
      exact Or.inl found
    · simp only [next, made] at found
      exact Or.inl ((w.cache.held?_makeSlot key n).symm.trans found)
  | entering slot =>
    simp only [next, World.enter] at found
    split at found
    · exact Or.inl found
    · exact Or.inl ((w.cache.held?_join slot n w.tickets).symm.trans found)
  | leaving slot ticket e => exact Or.inl ((w.cache.held?_leave slot n ticket).symm.trans found)
  | sweeping slot e =>
    unfold next Cache.held? at found
    simp only [World.mapCache, Cache.slots_sweep] at found
    exact Or.inl found
  | _ => exact Or.inl found

end Passage

/-! ## Putting clients into slots -/

namespace Course

/-- In a run an entry was put into a slot, and then the clock showed a time. -/
def Puts (c : Course) (moves : List Move) (entry : CacheEntry) (time : Nat) : Prop :=
  ∃ before m after n, moves = before ++ m :: after ∧
    (c.run before).world.cache.held? n ≠ some entry ∧
      (c.run (before ++ [m])).world.cache.held? n = some entry ∧
        (c.run (before ++ [m])).world.now = time

theorem puts_append (c : Course) (moves later : List Move) (entry : CacheEntry) (time : Nat)
    (h : c.Puts moves entry time) : c.Puts (moves ++ later) entry time := by
  obtain ⟨before, m, after, n, rfl, not_yet, put, clock⟩ := h
  exact ⟨before, m, after ++ later, n, by simp, not_yet, put, clock⟩

/-- What is in a slot was there from the start, or was put there. -/
theorem puts_of_held (c : Course) (moves : List Move) (n : Nat) (entry : CacheEntry)
    (found : (c.run moves).world.cache.held? n = some entry) :
    c.world.cache.held? n = some entry ∨ ∃ time, c.Puts moves entry time := by
  induction moves using List.reverseRecOn with
  | nil => exact Or.inl found
  | append_singleton moves m ih =>
    by_cases before : (c.run moves).world.cache.held? n = some entry
    · rcases ih before with always | ⟨time, put⟩
      · exact Or.inl always
      · exact Or.inr ⟨time, c.puts_append moves [m] entry time put⟩
    · exact Or.inr ⟨_, moves, m, [], n, rfl, before, found, rfl⟩

/-! ## Stamps -/

/-- No stamp lies in the future: neither that of a client in a slot nor that of one that is about to
be put there. -/
structure Stamped (c : Course) : Prop where
  slots : ∀ n entry, c.world.cache.held? n = some entry → entry.created ≤ c.world.now
  visits : ∀ v ∈ c.visits, ∀ slot ticket order created,
    v.place = some (.settling slot ticket order created) → created ≤ c.world.now

theorem stamped_of_world (c : Course) (w : World OrderBook) (stamped : c.Stamped)
    (clock : c.world.now ≤ w.now) (held : ∀ n, w.cache.held? n = c.world.cache.held? n) :
    Stamped ⟨w, c.visits⟩ where
  slots n entry found :=
    Nat.le_trans (stamped.slots n entry ((held n).symm.trans found)) clock
  visits v member slot ticket order created place :=
    Nat.le_trans (stamped.visits v member slot ticket order created place) clock

theorem stamped_step (c c' : Course) (m : Move) (takes : c.Takes m c') (stamped : c.Stamped) :
    c'.Stamped := by
  cases takes with
  | call identity scope =>
    refine ⟨stamped.slots, ?_⟩
    intro v member slot ticket order created place
    rcases List.mem_append.mp member with old | new
    · exact stamped.visits v old slot ticket order created place
    · cases List.mem_singleton.mp new
      unfold Passage.first at place
      split at place <;> cases place
  | go k identity scope p found =>
    have member := List.mem_of_getElem? found
    have clock := Passage.now_next (keyFor identity scope) c.world p
    refine ⟨?_, ?_⟩
    · intro n entry held
      rw [clock]
      rcases Passage.held?_next _ c.world p n entry held with old | ⟨ticket, order, rfl, _⟩
      · exact stamped.slots n entry old
      · exact stamped.visits _ member n ticket order entry.created rfl
    · intro v member' slot ticket order created place
      rw [clock]
      rcases List.mem_or_eq_of_mem_set member' with old | rfl
      · exact stamped.visits v old slot ticket order created place
      · exact Nat.le_of_eq
          (Passage.settling_of_next _ c.world p slot ticket order created (Option.some.inj place))
  | drop k identity scope p found waits =>
    have undone := stamped_of_world c (p.undo c.world) stamped
      (Nat.le_of_eq (Passage.now_undo c.world p).symm) (Passage.held?_undo c.world p)
    refine ⟨undone.slots, ?_⟩
    intro v member slot ticket order created place
    rcases List.mem_or_eq_of_mem_set member with old | rfl
    · exact undone.visits v old slot ticket order created place
    · cases place
  | pass d => exact stamped_of_world c _ stamped (Nat.le_add_right _ _) fun _ => rfl
  | _ => exact stamped_of_world c _ stamped (Nat.le_refl _) fun _ => rfl

theorem stamped_run (ttl maxEntries : Nat) (order : KeyOrder) (wall : Time.Instant)
    (moves : List Move) : ((start ttl maxEntries order wall).run moves).Stamped := by
  induction moves using List.reverseRecOn with
  | nil => exact ⟨fun _ _ => nofun, fun _ => nofun⟩
  | append_singleton moves m ih =>
    rw [run_concat]
    exact stamped_step _ _ m (takes_step _ m) ih

/-- A client was in no slot before it got its stamp. -/
theorem created_le_of_puts (ttl maxEntries : Nat) (order : KeyOrder) (wall : Time.Instant)
    (moves : List Move) (entry : CacheEntry) (time : Nat)
    (h : (start ttl maxEntries order wall).Puts moves entry time) :
    entry.created ≤ time := by
  obtain ⟨before, m, _, n, _, _, put, rfl⟩ := h
  exact (stamped_run ttl maxEntries order wall (before ++ [m])).slots n entry put

/-! ## Once only -/

theorem distinct_step (c c' : Course) (m : Move) (takes : c.Takes m c') (sound : c.Sound)
    (distinct : c.Distinct Passage.order?) : c'.Distinct Passage.order? := by
  have below (j n : Nat) (h : c.numberOf? Passage.order? j = some n) :
      n < c.world.backend.length := by
    obtain ⟨v, p, found, place, mine⟩ := place_of_numberOf? Passage.order? c j n h
    have fits := sound.visits v (List.mem_of_getElem? found) p place
    obtain ⟨progress, there⟩ := fits.order n mine
    exact (List.getElem?_eq_some_iff.mp there).1
  cases takes with
  | call identity scope =>
    have before := c.numberOf?_of_call Passage.order? identity scope (Passage.order?_first identity)
    exact fun i j n hi hj => distinct i j n (before i n hi) (before j n hj)
  | go k identity scope p found =>
    refine distinct_of_set Passage.order? c _ k _ c.world.backend.length distinct below ?_
    intro n h
    rw [numberOf?_of_place Passage.order? c k _ p found rfl]
    rcases Passage.order?_next _ c.world p n h with old | ⟨_, _, _, new⟩
    · exact Or.inl old
    · exact Or.inr new
  | drop k identity scope p found waits =>
    exact distinct_of_set Passage.order? c _ k _ c.world.backend.length distinct below nofun
  | _ => exact distinct

theorem distinct_run (ttl maxEntries : Nat) (order : KeyOrder) (wall : Time.Instant)
    (moves : List Move) :
    ((start ttl maxEntries order wall).run moves).Distinct Passage.order? := by
  induction moves using List.reverseRecOn with
  | nil => exact fun _ _ _ => nofun
  | append_singleton moves m ih =>
    rw [run_concat]
    exact distinct_step _ _ m (takes_step _ m)
      (sound_run _ moves (sound_start ttl maxEntries order wall)) ih

/-- A build was started, and no caller waits for its client any more. -/
def Spent (c : Course) (n : Nat) : Prop :=
  n < c.world.backend.length ∧ ∀ k, c.numberOf? Passage.order? k ≠ some n

theorem spent_of_set (c : Course) (w : World OrderBook) (k n : Nat) (new : Visit)
    (started : n < w.backend.length) (others : ∀ j, j ≠ k → c.numberOf? Passage.order? j ≠ some n)
    (mine : new.place.bind Passage.order? ≠ some n) : Spent ⟨w, c.visits.set k new⟩ n := by
  refine ⟨started, ?_⟩
  intro j h
  rcases numberOf?_of_set Passage.order? c w k new j n h with ⟨_, here⟩ | ⟨other, there⟩
  · exact mine here
  · exact others j other there

theorem length_backend_next (key : CacheKey) (w : World OrderBook) (p : Passage) :
    w.backend.length ≤ (p.next key w).2.backend.length := by
  rcases Passage.backend_next key w p with same | ⟨_, _, _, placed⟩
  · exact Nat.le_of_eq (congrArg List.length same.symm)
  · rw [placed]
    simp [OrderBook.place]

theorem length_backend_undo (w : World OrderBook) (p : Passage) :
    (p.undo w).backend.length = w.backend.length := by
  cases p with
  | building slot ticket order => exact List.length_modify _ _ _
  | _ => rfl

theorem spent_step (c c' : Course) (m : Move) (takes : c.Takes m c') (n : Nat)
    (spent : c.Spent n) : c'.Spent n := by
  cases takes with
  | call identity scope =>
    refine ⟨spent.1, ?_⟩
    intro j h
    exact spent.2 j
      (c.numberOf?_of_call Passage.order? identity scope (Passage.order?_first identity) j n h)
  | go k identity scope p found =>
    refine spent_of_set c _ k n _
      (Nat.lt_of_lt_of_le spent.1 (length_backend_next _ c.world p)) (fun j _ => spent.2 j) ?_
    intro h
    rcases Passage.order?_next _ c.world p n h with old | ⟨_, _, _, new⟩
    · exact spent.2 k ((numberOf?_of_place Passage.order? c k _ p found rfl).trans old)
    · exact Nat.ne_of_lt spent.1 new
  | drop k identity scope p found waits =>
    refine spent_of_set c _ k n _ ?_ (fun j _ => spent.2 j) nofun
    rw [length_backend_undo]
    exact spent.1
  | finish m i p =>
    refine ⟨?_, spent.2⟩
    simpa [World.mapBackend, OrderBook.finish] using spent.1
  | _ => exact spent

theorem spent_run (c : Course) (moves : List Move) (n : Nat) (spent : c.Spent n) :
    (c.run moves).Spent n := by
  induction moves generalizing c with
  | nil => exact spent
  | cons m rest ih => exact ih (c.step m) (spent_step c _ m (c.takes_step m) n spent)

/-- Whoever puts a client into a slot is about to settle it, with the client of its own build. -/
theorem settling_of_put (c c' : Course) (m : Move) (takes : c.Takes m c') (n : Nat)
    (entry : CacheEntry) (not_yet : c.world.cache.held? n ≠ some entry)
    (put : c'.world.cache.held? n = some entry) :
    ∃ k v ticket order, m = .go k ∧ c.visits[k]? = some v ∧
      v.place = some (.settling n ticket order entry.created) ∧
        entry.client = v.key.clientOf order := by
  cases takes with
  | go k identity scope p found =>
    rcases Passage.held?_next _ c.world p n entry put with old | ⟨ticket, order, rfl, client⟩
    · exact absurd old not_yet
    · exact ⟨k, _, ticket, order, rfl, found, rfl, client⟩
  | drop k identity scope p found waits =>
    exact absurd ((Passage.held?_undo c.world p n).symm.trans put) not_yet
  | _ => exact absurd put not_yet

/-- After a client was put into a slot its build is spent. -/
theorem spent_of_put (c : Course) (m : Move) (n : Nat) (entry : CacheEntry) (sound : c.Sound)
    (distinct : c.Distinct Passage.order?) (not_yet : c.world.cache.held? n ≠ some entry)
    (put : (c.step m).world.cache.held? n = some entry) :
    (c.step m).Spent entry.client.serial := by
  obtain ⟨k, ⟨identity, scope, _⟩, ticket, order, rfl, found, rfl, client⟩ :=
    settling_of_put c _ m (c.takes_step m) n entry not_yet put
  have fits := sound.visits _ (List.mem_of_getElem? found) _ rfl
  obtain ⟨progress, there⟩ := fits.order order rfl
  have own := numberOf?_of_place Passage.order? c k _ _ found rfl
  rw [client]
  simp only [step, found]
  refine spent_of_set c _ k order _ (List.getElem?_eq_some_iff.mp there).1 ?_ ?_
  · intro j other theirs
    exact other (distinct j k order theirs own)
  · rintro ⟨⟩

/-- In every run, no client is put into a slot again later. -/
theorem not_put_again (ttl maxEntries : Nat) (order : KeyOrder) (wall : Time.Instant)
    (before between : List Move) (m m' : Move) (n n' : Nat) (entry entry' : CacheEntry)
    (not_yet : ((start ttl maxEntries order wall).run before).world.cache.held? n ≠ some entry)
    (put : ((start ttl maxEntries order wall).run (before ++ [m])).world.cache.held? n = some entry)
    (not_yet' : ((start ttl maxEntries order wall).run
      (before ++ m :: between)).world.cache.held? n' ≠ some entry')
    (put' : ((start ttl maxEntries order wall).run
      (before ++ m :: between ++ [m'])).world.cache.held? n' = some entry') :
    entry.client.serial ≠ entry'.client.serial := by
  rw [run_concat] at put put'
  have sound := sound_run _ before (sound_start ttl maxEntries order wall)
  have spent := spent_run _ between _ (spent_of_put _ m n entry sound
    (distinct_run ttl maxEntries order wall before) not_yet put)
  rw [← run_cut] at spent
  obtain ⟨k, v, ticket, order, _, found, place, client⟩ :=
    settling_of_put _ _ m' (takes_step _ m') n' entry' not_yet' put'
  intro same
  refine spent.2 k ?_
  rw [numberOf?_of_place Passage.order? _ k v _ found place, same, client]
  rfl

/-- One move puts at most one client into a slot. -/
theorem put_unique (c : Course) (m : Move) (n n' : Nat) (entry entry' : CacheEntry)
    (not_yet : c.world.cache.held? n ≠ some entry)
    (put : (c.step m).world.cache.held? n = some entry)
    (not_yet' : c.world.cache.held? n' ≠ some entry')
    (put' : (c.step m).world.cache.held? n' = some entry') : n = n' ∧ entry = entry' := by
  obtain ⟨k, v, ticket, order, mine, found, place, client⟩ :=
    settling_of_put c _ m (c.takes_step m) n entry not_yet put
  obtain ⟨k', v', ticket', order', mine', found', place', client'⟩ :=
    settling_of_put c _ m (c.takes_step m) n' entry' not_yet' put'
  cases mine.symm.trans mine'
  cases found.symm.trans found'
  have same := Option.some.inj (place.symm.trans place')
  obtain ⟨_, _⟩ := entry
  obtain ⟨_, _⟩ := entry'
  cases client
  cases client'
  cases same
  exact ⟨rfl, rfl⟩

/-- In every run, a client is put into one slot, under one stamp, at one moment. -/
theorem puts_once (ttl maxEntries : Nat) (order : KeyOrder) (wall : Time.Instant)
    (moves : List Move) (entry entry' : CacheEntry) (time time' : Nat)
    (h : (start ttl maxEntries order wall).Puts moves entry time)
    (h' : (start ttl maxEntries order wall).Puts moves entry' time')
    (same : entry.client.serial = entry'.client.serial) : entry = entry' ∧ time = time' := by
  obtain ⟨before, m, after, n, rfl, not_yet, put, rfl⟩ := h
  obtain ⟨before', m', after', n', whole, not_yet', put', rfl⟩ := h'
  rcases List.append_eq_append_iff.mp whole with ⟨between, rfl, rest⟩ | ⟨between, rfl, rest⟩
  · cases between with
    | nil =>
      rw [List.append_nil] at not_yet' put' ⊢
      cases rest
      rw [run_concat] at put put'
      exact ⟨(put_unique _ _ n n' entry entry' not_yet put not_yet' put').2, rfl⟩
    | cons x between =>
      cases rest
      exact absurd same (not_put_again ttl maxEntries order wall before between m m' n n' entry
        entry' not_yet put not_yet' put')
  · cases between with
    | nil =>
      rw [List.append_nil] at not_yet put ⊢
      cases rest
      rw [run_concat] at put put'
      exact ⟨(put_unique _ _ n n' entry entry' not_yet put not_yet' put').2, rfl⟩
    | cons x between =>
      cases rest
      exact absurd same.symm (not_put_again ttl maxEntries order wall before' between m' m n' n
        entry' entry not_yet' put' not_yet put)

end Course
end ClusterGraph
