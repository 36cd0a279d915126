import ClusterGraph.Proofs.Access.Eviction
import ClusterGraph.Proofs.Access.Isolation

/-!
# What a failure costs others

A caller that is refused, because its identity is blank or has expired, leaves the clients of every
other identity where they are. A caller whose build fails may have cost others something: its slot
was made before the build, and the bound was kept then at the cost of the oldest clients. It costs
no more of them than the bound demands, none that is younger than one that stays, and none at all if
its key had an empty slot already (`Traffic.cost_of_failure`). The oldest client of somebody else
may go for nothing (`Traffic.oldest_gone_for_nothing`).
-/
namespace ClusterGraph

namespace Cache
variable {c before after after' : Cache} {key : CacheKey}

theorem caches_evict_iff (identity : Identity) (entry : CacheEntry) :
    (c.evict identity).Caches key entry ↔ c.Caches key entry ∧ key.identity ≠ identity := by
  constructor
  · rintro ⟨n, member, held⟩
    have different := c.identity_ne_of_mem_evict identity (key, n) member
    exact ⟨⟨n, c.index_evict_subset identity member, held⟩, different⟩
  · rintro ⟨⟨n, current, held⟩, different⟩
    exact ⟨n, List.mem_filter.mpr ⟨current, by simpa using different⟩, held⟩

/-- The clients of other keys make way for a slot of a key: as few as the bound allows, the oldest
first, and none if the key has an empty slot. -/
def MakesWay (key : CacheKey) (before after : Cache) : Prop :=
  ∃ evicted, Evicts key ((before.drop key).size + 1 - max before.maxEntries 1) before after
      evicted ∧
    ((∃ n, (key, n) ∈ before.index ∧ before.held? n = none) → evicted = [])

theorem makesWay_refl (key : CacheKey) (c : Cache) : MakesWay key c c :=
  ⟨[], evicts_nil _ fun _ _ _ => Iff.rfl, fun _ => rfl⟩

/-- What happens to the key itself afterwards costs nobody else. -/
theorem MakesWay.trans (way : MakesWay key before after)
    (rest : ∀ k entry, k ≠ key → (after'.Caches k entry ↔ after.Caches k entry)) :
    MakesWay key before after' := by
  obtain ⟨evicted, evicts, vacant⟩ := way
  exact ⟨evicted, evicts.congr (fun _ _ _ => Iff.rfl) rest, vacant⟩

/-- A change to what is neither the key nor the client of a slot. -/
theorem MakesWay.modify (way : MakesWay key before after) (n : Nat) (f : Slot → Slot)
    (keeps : ∀ s, (f s).entry = s.entry) : MakesWay key before (after.modify n f) := by
  refine way.trans fun k entry _ => ?_
  simp only [Caches, after.held?_modify n _ f keeps]
  rfl

theorem MakesWay.sweep (way : MakesWay key before after) (n : Nat) :
    MakesWay key before (after.sweep key n) := by
  unfold Cache.sweep
  split
  · exact way.trans fun k entry other => by simp [caches_drop_iff, other]
  · exact way

/-- Looking up the slot of a key costs what making one does, if one is made. -/
theorem slotFor_makesWay (unique : c.IsUnique) (index : ∀ e ∈ c.index, c.keyOf? e.2 = some e.1)
    (key : CacheKey) (now : Nat) (wall : Time.Instant) :
    MakesWay key c (c.slotFor key now wall).1 := by
  by_cases vacant : ∃ n, (key, n) ∈ c.index ∧ c.held? n = none
  · obtain ⟨n, current, empty⟩ := vacant
    rw [c.slotFor_of_empty unique key n now wall current (index _ current) empty]
    exact makesWay_refl key c
  · rcases c.slotFor_cases key now wall with ⟨n, found, -⟩ | made
    · rw [found]
      exact makesWay_refl key c
    · rw [made]
      obtain ⟨evicted, evicts⟩ := c.makeSlot_evicts key
      exact ⟨evicted, evicts, fun there => absurd there vacant⟩

end Cache

/-! ## On the way -/

namespace Passage
variable {key : CacheKey} {w v v' : World OrderBook}

/-- A caller was refused, and nothing was built: other identities have lost nothing. -/
structure Refused (identity : Identity) (w v : World OrderBook) (e : BackendError) : Prop where
  reason : e = .invalidIdentity "empty credential" ∨ e = .invalidIdentity "credential expired"
  builds : v.backend.length = w.backend.length
  others : ∀ k entry, k.identity ≠ identity → (v.cache.Caches k entry ↔ w.cache.Caches k entry)

/-- One build was started, and clients of other keys have made way for its slot. -/
structure Tried (key : CacheKey) (w v : World OrderBook) : Prop where
  builds : v.backend.length = w.backend.length + 1
  way : Cache.MakesWay key w.cache v.cache

/-- What a caller has cost by the time that it is at a place, unless it gets a client there. -/
def Costs (key : CacheKey) (w v : World OrderBook) : Passage → Prop
  | arriving | expelling | dating | seeking _ =>
    v.cache = w.cache ∧ v.backend.length = w.backend.length
  | entering _ | checking _ _ | waiting _ _ | proceeding _ _ | ordering _ _ =>
    Cache.MakesWay key w.cache v.cache ∧ v.backend.length = w.backend.length
  | building _ _ _ | collecting _ _ _ | leaving _ _ _ | sweeping _ _ => Tried key w v
  | finished (.error e) => Refused key.identity w v e ∨ Tried key w v
  | _ => True

theorem first_costs (identity : Identity) (scope : Scope) (w : World OrderBook) :
    (first identity).Costs (keyFor identity scope) w w := by
  unfold first
  split
  · exact .inl ⟨.inl rfl, rfl, fun _ _ _ => Iff.rfl⟩
  · exact ⟨rfl, rfl⟩

/-- What others have lost does not depend on the clock, or on how far builds are. -/
theorem Costs.congr {p : Passage} (costs : p.Costs key w v) (cache : v'.cache = v.cache)
    (builds : v'.backend.length = v.backend.length) : p.Costs key w v' := by
  have tried (was : Tried key w v) : Tried key w v' :=
    ⟨builds.trans was.builds, cache ▸ was.way⟩
  cases p with
  | arriving | expelling | dating | seeking now =>
    exact ⟨cache.trans costs.1, builds.trans costs.2⟩
  | entering slot | checking slot ticket | waiting slot ticket | proceeding slot ticket
  | ordering slot ticket => exact ⟨cache ▸ costs.1, builds.trans costs.2⟩
  | building slot ticket order | collecting slot ticket order | leaving slot ticket e
  | sweeping slot e => exact tried costs
  | finished r =>
    cases r with
    | ok c => trivial
    | error e =>
      refine costs.imp (fun was => ?_) tried
      exact ⟨was.reason, builds.trans was.builds, cache ▸ was.others⟩
  | _ => trivial

/-- A step of the caller costs others nothing, unless a slot is made by it. -/
theorem costs_next (unique : w.cache.IsUnique)
    (index : ∀ e ∈ w.cache.index, w.cache.keyOf? e.2 = some e.1) (p : Passage)
    (costs : p.Costs key w v) : (p.next key v).1.Costs key w (p.next key v).2 := by
  cases p with
  | arriving =>
    simp only [next]
    split <;> exact costs
  | expelling =>
    refine .inl ⟨.inr rfl, costs.2, fun k entry other => ?_⟩
    change (v.cache.evict key.identity).Caches k entry ↔ _
    rw [Cache.caches_evict_iff, costs.1]
    exact and_iff_left other
  | dating => exact costs
  | seeking now =>
    simp only [next, World.seek]
    split
    · trivial
    · rw [costs.1]
      exact ⟨Cache.slotFor_makesWay unique index key now v.wall, costs.2⟩
  | entering slot =>
    simp only [next, World.enter]
    cases v.cache.held? slot with
    | some entry => trivial
    | none => exact ⟨costs.1.modify slot _ fun s => s.entry_join v.tickets, costs.2⟩
  | checking slot ticket | waiting slot ticket =>
    simp only [next]
    split <;> exact costs
  | proceeding slot ticket =>
    simp only [next]
    cases v.cache.held? slot with
    | some entry => trivial
    | none => exact costs
  | ordering slot ticket =>
    refine ⟨?_, costs.1⟩
    simp [next, World.mapBackend, OrderBook.place, costs.2]
  | building slot ticket order =>
    simp only [next]
    split <;> exact costs
  | collecting slot ticket order =>
    simp only [next]
    split
    · trivial
    · exact costs
  | leaving slot ticket e =>
    exact ⟨costs.builds, costs.way.modify slot _ fun s => s.entry_leave ticket⟩
  | sweeping slot e => exact .inr ⟨costs.builds, costs.way.sweep slot⟩
  | finished r => exact costs
  | _ => trivial

end Passage

/-! ## Runs -/

/-- A move by which nobody calls, takes a step or is dropped but one caller, and by which nothing is
evicted or purged. Builds may end, and time may pass. -/
def Move.LeavesTo (k : Nat) : Move → Prop
  | .go j => j = k
  | .succeed _ | .fail _ _ | .pass _ | .setWall _ => True
  | _ => False

namespace Course
variable {k : Nat} {identity : Identity} {scope : Scope} {w : World OrderBook}

theorem costs_step (unique : w.cache.IsUnique)
    (index : ∀ e ∈ w.cache.index, w.cache.keyOf? e.2 = some e.1) (c : Course) (m : Move)
    (leaves : m.LeavesTo k) (p : Passage)
    (found : c.visits[k]? = some ⟨identity, scope, some p⟩)
    (costs : p.Costs (keyFor identity scope) w c.world) :
    ∃ q, (c.step m).visits[k]? = some ⟨identity, scope, some q⟩ ∧
      q.Costs (keyFor identity scope) w (c.step m).world := by
  cases m with
  | go j =>
    obtain rfl : j = k := leaves
    have bound := (List.getElem?_eq_some_iff.mp found).1
    simp only [step, found]
    refine ⟨_, ?_, Passage.costs_next unique index p costs⟩
    rw [List.getElem?_set_self bound]
  | succeed n | fail n e => exact ⟨p, found, costs.congr rfl (List.length_modify _ _ _)⟩
  | pass d | setWall wall => exact ⟨p, found, costs.congr rfl rfl⟩
  | _ => exact leaves.elim

theorem costs_run (unique : w.cache.IsUnique)
    (index : ∀ e ∈ w.cache.index, w.cache.keyOf? e.2 = some e.1) (c : Course)
    (moves : List Move) (alone : ∀ m ∈ moves, m.LeavesTo k) (p : Passage)
    (found : c.visits[k]? = some ⟨identity, scope, some p⟩)
    (costs : p.Costs (keyFor identity scope) w c.world) :
    ∃ q, (c.run moves).visits[k]? = some ⟨identity, scope, some q⟩ ∧
      q.Costs (keyFor identity scope) w (c.run moves).world := by
  induction moves generalizing c p with
  | nil => exact ⟨p, found, costs⟩
  | cons m rest ih =>
    obtain ⟨q, there, still⟩ :=
      c.costs_step unique index m (alone m List.mem_cons_self) p found costs
    exact ih (c.step m) (fun m member => alone m (List.mem_cons_of_mem _ member)) q there still

end Course

namespace Traffic

/-- A caller that gets an error, with no other call in between, was refused and has cost no other
identity anything, or has tried to build and has cost other keys the clients that had to make way
for its slot. -/
theorem cost_of_failure (ttl maxEntries : Nat) (order : KeyOrder) (wall : Time.Instant)
    (before alone : List Move) (identity : Identity) (scope : Scope) (e : BackendError)
    (undisturbed : ∀ m ∈ alone,
      m.LeavesTo ((start ttl maxEntries order wall).run before).callers.length)
    (failed : (((start ttl maxEntries order wall).run
      (before ++ .call identity scope :: alone)).callers[((start ttl maxEntries order wall).run
        before).callers.length]?).bind Caller.result? = some (.error e)) :
    let t := (start ttl maxEntries order wall).run before
    let t' := (start ttl maxEntries order wall).run (before ++ .call identity scope :: alone)
    let key := keyFor identity scope
    ((e = .invalidIdentity "empty credential" ∨ e = .invalidIdentity "credential expired") ∧
        t'.world.backend.length = t.world.backend.length ∧
        ∀ k entry, k.identity ≠ identity →
          (t'.world.cache.Caches k entry ↔ t.world.cache.Caches k entry)) ∨
      (t'.world.backend.length = t.world.backend.length + 1 ∧
        ∃ evicted, Cache.Evicts key ((t.world.cache.drop key).size + 1 - max maxEntries 1)
            t.world.cache t'.world.cache evicted ∧
          ((∃ n, (key, n) ∈ t.world.cache.index ∧ t.world.cache.held? n = none) →
            evicted = [])) := by
  have unique := Course.isUnique_run ttl maxEntries order wall before
  have sound := Course.sound_run _ before (Course.sound_start ttl maxEntries order wall)
  have bound := Course.maxEntries_run ttl maxEntries order wall before
  simp only [run_start, Course.run_cut] at undisturbed failed ⊢
  generalize (Course.start ttl maxEntries order wall).run before = c at *
  have number : c.traffic.callers.length = c.visits.length := List.length_map _
  rw [number] at undisturbed failed
  obtain ⟨q, there, costs⟩ := (c.step (.call identity scope)).costs_run unique sound.world.index
    alone undisturbed (Passage.first identity) (by simp [Course.step])
    (Passage.first_costs identity scope c.world)
  have ended : (Visit.caller ⟨identity, scope, some q⟩).result? = some (.error e) := by
    simpa [Course.traffic, there] using failed
  obtain rfl : q = .finished (.error e) :=
    Option.some.inj (Visit.place_of_result? ⟨identity, scope, some q⟩ _ ended)
  rcases costs with refused | tried
  · exact .inl ⟨refused.reason, refused.builds, refused.others⟩
  · rw [← bound]
    exact .inr ⟨tried.builds, tried.way⟩

def firstServed : List Move :=
  .call ⟨.bearer "alice", none⟩ ⟨none⟩ :: List.replicate 7 (.go 0) ++ .succeed 0 ::
    List.replicate 4 (.go 0)

def secondFails : List Move :=
  List.replicate 7 (.go 1) ++ .fail 1 (.invalidIdentity "credential rejected") ::
    List.replicate 4 (.go 1)

theorem cost_of_failure_of_second :
    let t := (start 60000 1 .asCame ⟨0, 0⟩).run firstServed
    let t' := (start 60000 1 .asCame ⟨0, 0⟩).run
      (firstServed ++ .call ⟨.bearer "bob", none⟩ ⟨none⟩ :: secondFails)
    (t'.callers[1]?).bind Caller.result? =
        some (.error (.invalidIdentity "credential rejected")) ∧
      ∃ evicted, Cache.Evicts (keyFor ⟨.bearer "bob", none⟩ ⟨none⟩) 1 t.world.cache
        t'.world.cache evicted := by
  have undisturbed : ∀ m ∈ secondFails,
      m.LeavesTo ((start 60000 1 .asCame ⟨0, 0⟩).run firstServed).callers.length := by
    intro m member
    rcases List.mem_append.mp member with early | late
    · rw [List.eq_of_mem_replicate early]
      rfl
    · rcases List.mem_cons.mp late with rfl | late
      · trivial
      · rw [List.eq_of_mem_replicate late]
        rfl
  refine ⟨rfl, ?_⟩
  rcases cost_of_failure 60000 1 .asCame ⟨0, 0⟩ firstServed secondFails ⟨.bearer "bob", none⟩ ⟨none⟩
    (.invalidIdentity "credential rejected") undisturbed rfl with ⟨-, builds, -⟩ |
      ⟨-, evicted, evicts, -⟩
  · exact absurd builds (by decide +kernel)
  · exact ⟨evicted, evicts⟩

/-- The client of the first caller goes for a slot that is never filled. -/
theorem oldest_gone_for_nothing :
    let t := (start 60000 1 .asCame ⟨0, 0⟩).run firstServed
    let t' := (start 60000 1 .asCame ⟨0, 0⟩).run
      (firstServed ++ .call ⟨.bearer "bob", none⟩ ⟨none⟩ :: secondFails)
    (t'.callers[1]?).bind Caller.result? =
        some (.error (.invalidIdentity "credential rejected")) ∧
      t.world.cache.Caches (keyFor ⟨.bearer "alice", none⟩ ⟨none⟩)
        ⟨⟨0, ⟨.bearer "alice", none⟩, ⟨none⟩⟩, 0⟩ ∧
      ∀ key entry, ¬ t'.world.cache.Caches key entry := by
  refine ⟨rfl, ⟨0, by decide +kernel, rfl⟩, ?_⟩
  rintro key entry ⟨n, member, -⟩
  have none : ((start 60000 1 .asCame ⟨0, 0⟩).run (firstServed ++
      .call ⟨.bearer "bob", none⟩ ⟨none⟩ :: secondFails)).world.cache.index = [] := rfl
  rw [none] at member
  cases member

end Traffic
end ClusterGraph
