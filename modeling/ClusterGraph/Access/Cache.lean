import ClusterGraph.Access.Identity
import ClusterGraph.Work.Deadline

/-!
# The client cache

One slot for each identity and normalized scope. A caller that finds no client in its slot queues
for the slot; the caller at the head may build, and when it is done the client is in the slot for
all who wait, or, if building failed or was abandoned, the next caller may build. A slot keeps
working for those who wait on it even after the cache has dropped it.

A client goes stale after a time to live or when its identity expires. Making a slot evicts the
oldest clients until the cache is within its bound; slots without a client are never stale and
never evicted. Of clients that were put into their slots at the same time, the one that the cache
comes to first is evicted. In which order it goes through its keys is not for the cache to say: the
order is given, and may be another one whenever a slot is made.
-/
namespace ClusterGraph

/-- What a client is built for. -/
structure CacheKey where
  identity : Identity
  scope : Scope
  deriving DecidableEq, Repr

/-- A client: its serial number, and for whom and within what it was built. -/
structure Client where
  serial : Nat
  identity : Identity
  scope : Scope
  deriving DecidableEq, Repr

/-- A client in a slot, and when it was put there. -/
structure CacheEntry where
  client : Client
  created : Nat
  deriving DecidableEq, Repr

/-- The place of one key. A ticket stands for a caller that waits for the client. -/
structure Slot where
  key : CacheKey
  entry : Option CacheEntry
  /-- The caller that may build. -/
  holder : Option Nat
  /-- The callers behind it, in order. -/
  queue : List Nat
  deriving DecidableEq, Repr

namespace Slot

def fresh (key : CacheKey) : Slot := ⟨key, none, none, []⟩

def join (s : Slot) (ticket : Nat) : Slot :=
  match s.holder with
  | none => { s with holder := some ticket }
  | some _ => { s with queue := s.queue ++ [ticket] }

/-- A caller leaves the slot without a client; if it was the one to build, the next one is. -/
def leave (s : Slot) (ticket : Nat) : Slot :=
  if s.holder = some ticket then { s with holder := s.queue.head?, queue := s.queue.tail }
  else { s with queue := s.queue.filter (· != ticket) }

/-- A client is put into the slot; nobody waits any longer. -/
def settle (s : Slot) (entry : CacheEntry) : Slot :=
  { s with entry := some entry, holder := none, queue := [] }

/-- The caller may go on: there is a client, or it is its turn to build. -/
def mayProceed (s : Slot) (ticket : Nat) : Bool := s.entry.isSome || s.holder == some ticket

/-- The client has outlived its time, or its identity has expired. -/
def isStale (s : Slot) (ttl now : Nat) (wall : Time.Instant) : Bool :=
  match s.entry with
  | some entry => entry.created + ttl ≤ now || s.key.identity.isExpiredAt wall
  | none => false

end Slot

/-- Where each key comes when the keys of a cache are gone through. The order may be another one
each time a slot is made, so there is one for each number of slots. -/
abbrev KeyOrder := Nat → CacheKey → Nat

/-- Keys are gone through as they came: none comes before another. -/
def KeyOrder.asCame : KeyOrder := fun _ _ => 0

/-- All slots that were ever made, by number, and the number of the current slot of each key. -/
structure Cache where
  ttl : Nat
  maxEntries : Nat
  order : KeyOrder
  slots : List Slot
  index : List (CacheKey × Nat)

namespace Cache

def empty (ttl maxEntries : Nat) (order : KeyOrder := .asCame) : Cache :=
  ⟨ttl, maxEntries, order, [], []⟩

def find? (c : Cache) (key : CacheKey) : Option Nat :=
  (c.index.find? fun e => e.1 = key).map Prod.snd

def held? (c : Cache) (slot : Nat) : Option CacheEntry := c.slots[slot]?.bind Slot.entry

def modify (c : Cache) (slot : Nat) (f : Slot → Slot) : Cache :=
  { c with slots := c.slots.modify slot f }

def size (c : Cache) : Nat := c.index.length

/-- The clients of other keys, in the order of the current slots. -/
def clientsBeside (c : Cache) (keep : CacheKey) : List (CacheKey × CacheEntry) :=
  c.index.filterMap fun e =>
    if e.1 = keep then none else (c.held? e.2).map fun entry => (e.1, entry)

/-- One client goes before another: it was put into its slot earlier, or at the same time and its
key comes earlier. -/
def goesBefore (rank : CacheKey → Nat) (a b : CacheKey × CacheEntry) : Bool :=
  a.2.created < b.2.created || (a.2.created == b.2.created && rank a.1 < rank b.1)

/-- The first of some clients before which no other one goes. -/
def eldest? (rank : CacheKey → Nat) (es : List (CacheKey × CacheEntry)) :
    Option (CacheKey × CacheEntry) :=
  es.foldl
    (fun best e =>
      match best with
      | none => some e
      | some b => if goesBefore rank e b then some e else some b)
    none

/-- The key of the oldest client among current slots other than that of `keep`. -/
def oldest? (c : Cache) (keep : CacheKey) : Option CacheKey :=
  (eldest? (c.order c.slots.length) (c.clientsBeside keep)).map Prod.fst

def drop (c : Cache) (key : CacheKey) : Cache :=
  { c with index := c.index.filter fun e => e.1 ≠ key }

/-- Drops the oldest clients until the cache is within its bound, or has none to drop. The fuel
bounds the number of drops. -/
def enforceBound (keep : CacheKey) : (fuel : Nat) → Cache → Cache
  | 0, c => c
  | fuel + 1, c =>
    if max c.maxEntries 1 < c.size then
      match c.oldest? keep with
      | some key => enforceBound keep fuel (c.drop key)
      | none => c
    else c

def makeSlot (c : Cache) (key : CacheKey) : Cache × Nat :=
  let n := c.slots.length
  let c' : Cache :=
    { c with
      slots := c.slots ++ [Slot.fresh key]
      index := (c.index.filter fun e => e.1 ≠ key) ++ [(key, n)] }
  (enforceBound key c'.size c', n)

/-- The slot of a key: the current one unless it is stale, else a new one. -/
def slotFor (c : Cache) (key : CacheKey) (now : Nat) (wall : Time.Instant) : Cache × Nat :=
  match c.find? key with
  | some n =>
    match c.slots[n]? with
    | some s => if s.isStale c.ttl now wall then c.makeSlot key else (c, n)
    | none => c.makeSlot key
  | none => c.makeSlot key

/-- Drops an empty slot after its build failed, if it is still the current one of its key. -/
def sweep (c : Cache) (key : CacheKey) (slot : Nat) : Cache :=
  if c.find? key = some slot ∧ (c.held? slot).isNone then c.drop key else c

def evict (c : Cache) (identity : Identity) : Cache :=
  { c with index := c.index.filter fun e => e.1.identity ≠ identity }

def purge (c : Cache) (now : Nat) (wall : Time.Instant) : Cache :=
  { c with
    index := c.index.filter fun e =>
      match c.slots[e.2]? with
      | some s => !s.isStale c.ttl now wall
      | none => true }

/-- Whether the time at which the client in a slot goes stale lies beyond the end of the clock. -/
def overruns (c : Cache) (slot : Nat) : Bool :=
  match c.held? slot with
  | some entry => (later? entry.created c.ttl).isNone
  | none => false

def outlivesClock (c : Cache) (key : CacheKey) : Bool := (c.find? key).any c.overruns

end Cache
end ClusterGraph
