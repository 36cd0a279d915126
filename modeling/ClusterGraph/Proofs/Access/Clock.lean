import ClusterGraph.Proofs.Access.Changes
import ClusterGraph.Proofs.Work.Upholds

/-!
# Acquiring a client by the clock

The end of a client's time to live is reckoned when its slot is looked up again, from the time at
which the client was put there. If no client is put into its slot after a limit, and the clock
reaches as far as a time to live after that, the lookup never ends everything
(`World.OnClock.upholds_acquire`).
-/
namespace ClusterGraph

variable {β : Type} {sendable : Prop} {fine : β → Prop} {ttl limit : Nat} {w : World β}

namespace World

/-- The clock has not led past a limit, no client was put into its slot after that, and nothing has
ended, unless there are credentials that cannot be sent. -/
structure OnClock (sendable : Prop) (fine : β → Prop) (ttl limit : Nat) (w : World β) : Prop where
  soon : w.now ≤ limit
  ttl_eq : w.cache.ttl = ttl
  created : ∀ n entry, w.cache.held? n = some entry → entry.created ≤ limit
  backend : fine w.backend
  running : sendable → w.halted = false

namespace OnClock

/-- The cache may change, as long as no client is put into a slot after the limit. -/
theorem ofCache (onClock : w.OnClock sendable fine ttl limit) (c : Cache) (tickets : Nat)
    (same : c.ttl = w.cache.ttl)
    (held : ∀ n entry, c.held? n = some entry →
      w.cache.held? n = some entry ∨ entry.created ≤ limit) :
    OnClock sendable fine ttl limit { w with cache := c, tickets := tickets } where
  soon := onClock.soon
  ttl_eq := same.trans onClock.ttl_eq
  created n entry there := (held n entry there).elim (onClock.created n entry) id
  backend := onClock.backend
  running := onClock.running

/-- No change of the cache minds the clock but that a client is put into a slot. -/
theorem ofSame (onClock : w.OnClock sendable fine ttl limit) (c : Cache) (tickets : Nat)
    (same : c.ttl = w.cache.ttl) (held : ∀ n, c.held? n = w.cache.held? n) :
    OnClock sendable fine ttl limit { w with cache := c, tickets := tickets } :=
  onClock.ofCache c tickets same fun n _ there => .inl ((held n).symm.trans there)

theorem leaveSlot (onClock : w.OnClock sendable fine ttl limit) (slot ticket : Nat) :
    OnClock sendable fine ttl limit (w.leaveSlot slot ticket) :=
  onClock.ofSame _ w.tickets rfl fun n => w.cache.held?_leave slot n ticket

theorem settleSlot (onClock : w.OnClock sendable fine ttl limit) (slot : Nat) {entry : CacheEntry}
    (soon : entry.created ≤ limit) :
    OnClock sendable fine ttl limit (w.settleSlot slot entry) := by
  refine onClock.ofCache _ w.tickets rfl fun n found there => ?_
  rcases w.cache.held?_settle slot n entry found there with ⟨-, rfl⟩ | old
  · exact .inr soon
  · exact .inl old

theorem evict (onClock : w.OnClock sendable fine ttl limit) (identity : Identity) :
    OnClock sendable fine ttl limit (w.mapCache (·.evict identity)) :=
  onClock.ofSame _ w.tickets rfl fun _ => rfl

theorem sweep (onClock : w.OnClock sendable fine ttl limit) (key : CacheKey) (slot : Nat) :
    OnClock sendable fine ttl limit (w.mapCache (·.sweep key slot)) := by
  have same := Cache.Change.ttl_eq _ _ (w.cache.change_sweep key slot)
  refine onClock.ofSame _ w.tickets same fun n => ?_
  unfold Cache.held?
  rw [Cache.slots_sweep]

theorem enter (onClock : w.OnClock sendable fine ttl limit) (slot : Nat) :
    OnClock sendable fine ttl limit (w.enter slot).2 := by
  unfold World.enter
  split
  · exact onClock
  · exact onClock.ofSame _ (w.tickets + 1) rfl fun n => w.cache.held?_join slot n w.tickets

/-- Looking up the slot of a key ends nothing, since the clock reaches the end of every client. -/
theorem seek (onClock : w.OnClock sendable fine ttl limit) (reached : limit + ttl ≤ clockEnd)
    (key : CacheKey) (now : Nat) : OnClock sendable fine ttl limit (w.seek key now).2 := by
  unfold World.seek
  split
  · next beyond =>
    obtain ⟨n, entry, -, held, late⟩ := (w.cache.outlivesClock_iff key).mp beyond
    have early := onClock.created n entry held
    rw [onClock.ttl_eq] at late
    omega
  · rcases w.cache.slotFor_cases key now w.wall with ⟨n, found, -⟩ | made
    · rw [found]
      exact onClock
    · rw [made]
      have same := Cache.Change.ttl_eq w.cache _ (.make key)
      exact onClock.ofSame _ w.tickets same (w.cache.held?_makeSlot key)

/-! ## Acquiring -/

section Factory
variable {build : Factory β} {key : CacheKey} (slot ticket : Nat)

theorem upholds_conclude (result : Except BackendError Client) :
    Work.Upholds (OnClock sendable fine ttl limit) (conclude (β := β) key slot ticket result) := by
  cases result with
  | ok client =>
    -- The client is put into its slot at the time that was looked at.
    exact .look fun w onClock =>
      .act (fun _ now => now.settleSlot slot onClock.soon) fun _ _ => .done _
  | error e =>
    exact .act (fun _ now => now.leaveSlot slot ticket) fun _ _ =>
      .act (fun _ now => now.sweep key slot) fun _ _ => .done _

variable (built : Work.Upholds (OnClock sendable fine ttl limit) (build key.identity key.scope))
include built

theorem upholds_proceed :
    Work.Upholds (OnClock sendable fine ttl limit) (proceed build key slot ticket) := by
  refine .look fun w _ => ?_
  split
  · exact .done _
  · exact (built.onAbandon fun _ now => now.leaveSlot slot ticket).bind
      fun result => upholds_conclude slot ticket result

theorem upholds_awaitTurn (arrival : Arrival) :
    Work.Upholds (OnClock sendable fine ttl limit) (awaitTurn build key slot arrival) := by
  cases arrival with
  | hit client => exact .done _
  | queued ticket =>
    refine .look fun w _ => ?_
    split
    · exact upholds_proceed slot ticket built
    · exact .wait (fun _ now => now.leaveSlot slot ticket) (upholds_proceed slot ticket built)

theorem upholds_visit (found : Option Nat) :
    Work.Upholds (OnClock sendable fine ttl limit) (visit build key found) := by
  cases found with
  | none => exact .stuck _
  | some slot =>
    exact (Work.Upholds.step fun _ now => now.enter slot).bind
      fun arrival => upholds_awaitTurn slot built arrival

end Factory

/-- Acquiring a client ends nothing, if building it does not. -/
theorem upholds_acquire {b : Backend β} {identity : Identity} {scope : Scope}
    (built : Work.Upholds (OnClock sendable fine ttl limit) (b.build identity scope.normalized))
    (reached : limit + ttl ≤ clockEnd) :
    Work.Upholds (OnClock sendable fine ttl limit) (acquire b identity scope) := by
  unfold acquire acquireFrom
  split
  · exact .done _
  · refine .look fun w _ => ?_
    split
    · exact .act (fun _ now => now.evict identity) fun _ _ => .done _
    · exact .look fun w _ => (Work.Upholds.step fun _ now => now.seek reached _ _).bind
        fun found => upholds_visit built found

end OnClock
end World
end ClusterGraph
