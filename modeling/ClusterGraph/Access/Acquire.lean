import ClusterGraph.Gateway.World

/-!
# Acquiring a client

A caller gets the client of its identity and scope from the cache, building it on first use. A blank
identity is refused at once; an expired one is refused too, and loses all its clients.

Each change here is one that nobody can interrupt: a look at the clock, what is done under the lock
of the cache, or what is done to one slot. Other callers may act between any two of them.
-/
namespace ClusterGraph

/-- What a caller finds in its slot. -/
inductive Arrival where
  | hit (client : Client)
  | queued (ticket : Nat)
  deriving DecidableEq, Repr

namespace World
variable {β : Type}

/-- The slot of a key at a time, which is made if need be. There is none, and everything ends, if
the time at which its client goes stale lies beyond the end of the clock. -/
def seek (key : CacheKey) (now : Nat) (w : World β) : Option Nat × World β :=
  if w.cache.outlivesClock key then (none, { w with halted := true })
  else
    let (cache, slot) := w.cache.slotFor key now w.wall
    (some slot, { w with cache := cache })

/-- Drops every stale slot, and tells how many. Nothing is dropped, and everything ends, if the time
at which one of the clients goes stale lies beyond the end of the clock. -/
def purge (w : World β) : Option Nat × World β :=
  if w.cache.index.any fun e => w.cache.overruns e.2 then (none, { w with halted := true })
  else
    let cache := w.cache.purge w.now w.wall
    (some (w.cache.size - cache.size), { w with cache := cache })

/-- A caller enters a slot, and queues there unless it holds a client. -/
def enter (slot : Nat) (w : World β) : Arrival × World β :=
  match w.cache.held? slot with
  | some entry => (.hit entry.client, w)
  | none =>
    (.queued w.tickets,
      { w with cache := w.cache.modify slot (·.join w.tickets), tickets := w.tickets + 1 })

def mayProceed (slot ticket : Nat) (w : World β) : Bool :=
  match w.cache.slots[slot]? with
  | some s => s.mayProceed ticket
  | none => false

def leaveSlot (slot ticket : Nat) : World β → World β := mapCache (·.modify slot (·.leave ticket))

def settleSlot (slot : Nat) (entry : CacheEntry) : World β → World β :=
  mapCache (·.modify slot (·.settle entry))

end World

section Factory
variable {β : Type} (build : Factory β) (key : CacheKey)

/-- What becomes of a build: the client is put into the slot, or the caller leaves, and the slot is
dropped if it is still empty. -/
def conclude (slot ticket : Nat) : Except BackendError Client → Call β Client
  | .ok client =>
    .look fun w => .act (World.settleSlot slot ⟨client, w.now⟩) fun _ => .done (.ok client)
  | .error e =>
    .act (World.leaveSlot slot ticket) fun _ =>
      .act (World.mapCache (·.sweep key slot)) fun _ => .done (.error e)

def buildInto (slot ticket : Nat) : Call β Client :=
  ((build key.identity key.scope).onAbandon (World.leaveSlot slot ticket)).bind
    (conclude key slot ticket)

/-- Goes on as the caller with a ticket that may: takes the client that is there, or builds it. -/
def proceed (slot ticket : Nat) : Call β Client :=
  .look fun w =>
    match w.cache.held? slot with
    | some entry => .done (.ok entry.client)
    | none => buildInto build key slot ticket

/-- Goes on after entering a slot: a caller that queues waits for its turn. -/
def awaitTurn (slot : Nat) : Arrival → Call β Client
  | .hit client => .done (.ok client)
  | .queued ticket =>
    .look fun w =>
      if w.mayProceed slot ticket then proceed build key slot ticket
      else
        .wait (World.mayProceed slot ticket) (World.leaveSlot slot ticket) []
          (proceed build key slot ticket)

def visit : Option Nat → Call β Client
  | some slot => (Work.step (World.enter slot)).bind (awaitTurn build key slot)
  | none => .stuck (.error (.invalidIdentity "credential expired"))

/-- Lets a caller in, unless its identity has expired. -/
def letIn (identity : Identity) (scope : Scope) : Call β Client :=
  .look fun w =>
    if identity.isExpiredAt w.wall then
      .act (World.mapCache (·.evict identity)) fun _ =>
        .done (.error (.invalidIdentity "credential expired"))
    else
      let key : CacheKey := ⟨identity, scope.normalized⟩
      .look fun w => (Work.step (World.seek key w.now)).bind (visit build key)

/-- The client of an identity within a scope, from a factory. -/
def acquireFrom (identity : Identity) (scope : Scope) : Call β Client :=
  if identity.isBlank then .done (.error (.invalidIdentity "empty credential"))
  else letIn build identity scope

end Factory

def acquire {β : Type} (backend : Backend β) (identity : Identity) (scope : Scope) :
    Call β Client :=
  acquireFrom backend.build identity scope

end ClusterGraph
