import ClusterGraph.Access.Acquire

/-!
# Many callers at one cache

Any number of callers ask one cache for clients at the same time. Each of them runs `acquireFrom`,
one step at a time; between two steps of a caller the others may take any number of theirs, the
clock may move, and identities may be evicted and stale slots purged.

The factory is left open: a build that was asked for ends when and how it is told to. The builds
are numbered in the order in which they were started, and a client bears the number of its build, so
that it can be told from which build a client comes.

A run is a list of moves. A move that cannot be made changes nothing, so every list is a run.
-/
namespace ClusterGraph

namespace Work
variable {σ α : Type}

/-- One step of work. Work that waits goes on if it may; finished work stays as it is. -/
def advance : Work σ α → σ → Work σ α × σ
  | done a, s => (done a, s)
  | act update next, s => (next s, update s)
  | wait ready abandon timers next, s =>
    if ready s then (next, s) else (wait ready abandon timers next, s)

/-- Work waits; only then it can be dropped. -/
def isWaiting : Work σ α → Bool
  | wait _ _ _ _ => true
  | _ => false

end Work

/-! ## Builds -/

inductive Progress where
  | inFlight
  | succeeded
  | failed (e : BackendError)
  /-- The caller was dropped before the build came to its end. -/
  | abandoned
  deriving DecidableEq, Repr

structure Order where
  identity : Identity
  scope : Scope
  progress : Progress
  deriving DecidableEq, Repr

/-- Every build so far. The number of a build is its place. -/
abbrev OrderBook := List Order

namespace OrderBook

def place (identity : Identity) (scope : Scope) (b : OrderBook) : OrderBook :=
  b ++ [⟨identity, scope, .inFlight⟩]

def finish (n : Nat) (p : Progress) (b : OrderBook) : OrderBook :=
  b.modify n fun o => if o.progress = .inFlight then { o with progress := p } else o

def isOver (n : Nat) (b : OrderBook) : Bool :=
  match b[n]? with
  | some o => o.progress ≠ .inFlight
  | none => false

/-- What comes of a build for the caller that started it. -/
def result (client : Client) (b : OrderBook) : Except BackendError Client :=
  match (b[client.serial]?).map Order.progress with
  | some .succeeded => .ok client
  | some (.failed e) => .error e
  | _ => .error (.internal "unfinished build")

def collect (client : Client) : Call OrderBook Client :=
  .look fun w => .done (w.backend.result client)

/-- Waits for the end of a build, which is abandoned with the caller. -/
def watch (client : Client) : Call OrderBook Client :=
  .wait (fun w => w.backend.isOver client.serial)
    (World.mapBackend (finish client.serial .abandoned)) [] (collect client)

/-- A factory whose builds end as they are told to. -/
def build : Factory OrderBook := fun identity scope =>
  .act (World.mapBackend (place identity scope)) fun w =>
    watch ⟨w.backend.length, identity, scope⟩

end OrderBook

/-! ## Callers -/

/-- A caller, and what it has still to do; nothing once it was dropped. -/
structure Caller where
  identity : Identity
  scope : Scope
  work : Option (Call OrderBook Client)

/-- What a caller was given, once it has finished. -/
def Caller.result? (c : Caller) : Option (Except BackendError Client) :=
  match c.work with
  | some (.done r) => some r
  | _ => none

/-- A cache, its builds, and all who have called so far. -/
structure Traffic where
  world : World OrderBook
  callers : List Caller

/-- What can happen. -/
inductive Move where
  /-- Somebody asks for the client of an identity within a scope. -/
  | call (identity : Identity) (scope : Scope)
  /-- A caller takes its next step. -/
  | go (caller : Nat)
  /-- A caller that waits is dropped. -/
  | drop (caller : Nat)
  /-- A build succeeds. -/
  | succeed (order : Nat)
  /-- A build fails. -/
  | fail (order : Nat) (e : BackendError)
  /-- Time passes. -/
  | pass (milliseconds : Nat)
  /-- The time of day is set. -/
  | setWall (wall : Time.Instant)
  | evict (identity : Identity)
  | purge
  deriving DecidableEq, Repr

namespace Traffic

def start (ttl maxEntries : Nat) (order : KeyOrder) (wall : Time.Instant) : Traffic :=
  ⟨World.start wall (Cache.empty ttl maxEntries order) [], []⟩

def step (t : Traffic) : Move → Traffic
  | .call identity scope =>
    { t with
      callers :=
        t.callers ++ [⟨identity, scope, some (acquireFrom OrderBook.build identity scope)⟩] }
  | .go k =>
    match t.callers[k]? with
    | some ⟨identity, scope, some work⟩ =>
      let (work, world) := work.advance t.world
      ⟨world, t.callers.set k ⟨identity, scope, some work⟩⟩
    | _ => t
  | .drop k =>
    match t.callers[k]? with
    | some ⟨identity, scope, some work⟩ =>
      if work.isWaiting then ⟨work.undo t.world, t.callers.set k ⟨identity, scope, none⟩⟩ else t
    | _ => t
  | .succeed n => { t with world := t.world.mapBackend (OrderBook.finish n .succeeded) }
  | .fail n e => { t with world := t.world.mapBackend (OrderBook.finish n (.failed e)) }
  | .pass d => { t with world := { t.world with now := t.world.now + d } }
  | .setWall wall => { t with world := { t.world with wall := wall } }
  | .evict identity => { t with world := t.world.mapCache (·.evict identity) }
  | .purge => { t with world := t.world.purge.2 }

def run (t : Traffic) (moves : List Move) : Traffic := moves.foldl step t

end Traffic
end ClusterGraph
