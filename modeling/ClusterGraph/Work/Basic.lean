/-!
# Suspendable work

Work is a tree of steps over a state: it finishes, it changes the state at once, or it waits. What
waits says when it may go on, what has to be undone if it is abandoned while it waits, and at which
times a clock could wake it. Work is data, so that limits and concurrency are functions on trees,
and nothing of it runs before `run` walks the tree on a state with a virtual clock.

Two pieces of work run together by turns: in every round each of them, the left one first, goes on
as far as it can.

Times are whole milliseconds. That is the tick of the timers, which fire at the end of the one for
which they are set. It is assumed throughout that delays, limits, deadlines and cancellations fall
on ticks; nothing is said of the order of two moments within one.
-/
namespace ClusterGraph

/-- States that carry a clock, in whole milliseconds. -/
class Clocked (σ : Type) where
  now : σ → Nat
  setNow : Nat → σ → σ

/-- Steps over a state that end with a value. -/
inductive Work (σ α : Type) where
  | done (value : α)
  /-- Changes the state; what follows may look at the state before the change. -/
  | act (update : σ → σ) (next : σ → Work σ α)
  /-- Suspended until `ready`. -/
  | wait (ready : σ → Bool) (abandon : σ → σ) (timers : List Nat) (next : Work σ α)

namespace Work
variable {σ α β γ : Type}

protected def bind : Work σ α → (α → Work σ β) → Work σ β
  | done a, k => k a
  | act update next, k => act update fun s => (next s).bind k
  | wait ready abandon timers next, k => wait ready abandon timers (next.bind k)

instance : Monad (Work σ) where
  pure := done
  bind := Work.bind

def look (next : σ → Work σ α) : Work σ α := act id next

def change (update : σ → σ) : Work σ Unit := act update fun _ => done ()

/-- Changes the state and gives a value that depends on it. -/
def step (f : σ → α × σ) : Work σ α := act (fun s => (f s).2) fun s => done (f s).1

/-- Undoes more if the work is abandoned: `undo` after what the work undoes itself. -/
def onAbandon (undo : σ → σ) : Work σ α → Work σ α
  | done a => done a
  | act update next => act update fun s => (next s).onAbandon undo
  | wait ready abandon timers next =>
    wait ready (fun s => undo (abandon s)) timers (next.onAbandon undo)

def within {τ : Type} (get : τ → σ) (put : σ → τ → τ) : Work σ α → Work τ α
  | done a => done a
  | act update next => act (fun t => put (update (get t)) t) fun t => (next (get t)).within get put
  | wait ready abandon timers next =>
    wait (fun t => ready (get t)) (fun t => put (abandon (get t)) t) timers (next.within get put)

/-- Abandons work: undoes what it left open where it waits. -/
def undo : Work σ α → σ → σ
  | wait _ abandon _ _, s => abandon s
  | _, s => s

/-- Work that goes on at once if it may, and waits otherwise. -/
def recheck : Work σ α → Work σ α
  | wait ready abandon timers next =>
    look fun s => if ready s then next else wait ready abandon timers next
  | w => w

/-- Never goes on. -/
def stuck (a : α) : Work σ α := wait (fun _ => false) id [] (done a)

section Clock
variable [Clocked σ]

/-- Waits for a number of milliseconds; zero is no wait. -/
def sleep (delay : Nat) : Work σ Unit :=
  look fun s =>
    if delay = 0 then done ()
    else
      let wake := Clocked.now s + delay
      wait (fun s => wake ≤ Clocked.now s) id [wake] (done ())

/-- The timers that are still to come, earliest first. -/
def upcoming (timers : List Nat) (s : σ) : List Nat :=
  (timers.filter fun t => Clocked.now s < t).mergeSort

/-- Runs work alone: while it waits, the clock moves to the first timer at which it may go on. It
has no value if there is none. -/
def run : Work σ α → σ → Option α × σ
  | done a, s => (some a, s)
  | act update next, s => (next s).run (update s)
  | wait ready _ timers next, s =>
    if ready s then next.run s
    else
      match (upcoming timers s).find? fun t => ready (Clocked.setNow t s) with
      | some t => next.run (Clocked.setNow t s)
      | none => (none, s)

end Clock

/-! ## Two at a time -/

/-- The right side of a pair whose left side waits: it runs as far as it can, then both wait. Then
the left side goes first. `stop` ends the pair with the value of the right side alone, and the left
side is abandoned. -/
def parRight (stop : β → Option γ) (left : Work σ β → Work σ γ) (ready : σ → Bool)
    (abandon : σ → σ) (timers : List Nat) : Work σ β → Work σ γ
  | done b =>
    match stop b with
    | some c => act abandon fun _ => done c
    | none => wait ready abandon timers (left (done b))
  | act update next =>
    act update fun s => (next s).parRight stop left ready abandon timers
  | wait ready' abandon' timers' next =>
    wait (fun s => ready s || ready' s) (fun s => abandon' (abandon s)) (timers ++ timers')
      (look fun s =>
        if ready s then left (wait ready' abandon' timers' next)
        else next.parRight stop left ready abandon timers)

/-- Two pieces of work by turns. `stopLeft` and `stopRight` end the pair with the value of one side
alone; the other side is abandoned then. -/
def par (stopLeft : α → Option γ) (stopRight : β → Option γ) (combine : α → β → γ) :
    Work σ α → Work σ β → Work σ γ
  | done a, right =>
    match stopLeft a with
    | some c => act right.undo fun _ => done c
    | none => right.recheck.bind fun b => done ((stopRight b).getD (combine a b))
  | act update next, right =>
    act update fun s => (next s).par stopLeft stopRight combine right
  | wait ready abandon timers next, right =>
    right.recheck.parRight stopRight (fun r => next.par stopLeft stopRight combine r) ready abandon
      timers

def both (left : Work σ α) (right : Work σ β) : Work σ (α × β) :=
  par (fun _ => none) (fun _ => none) Prod.mk left right

def all : List (Work σ α) → Work σ (List α)
  | [] => done []
  | w :: rest => par (fun _ => none) (fun _ => none) List.cons w (all rest)

private def failed {ε : Type} : Except ε α → Option (Except ε β)
  | .ok _ => none
  | .error e => some (.error e)

/-- All values, in order, or the first error; the rest is abandoned then. -/
def tryAll {ε : Type} : List (Work σ (Except ε α)) → Work σ (Except ε (List α))
  | [] => done (.ok [])
  | w :: rest =>
    par failed failed
      (fun a b =>
        match a, b with
        | .ok x, .ok xs => .ok (x :: xs)
        | .error e, _ => .error e
        | _, .error e => .error e)
      w (tryAll rest)

/-- One after another, in order; the first error ends it. -/
def trySeq {ε : Type} : List (Work σ (Except ε α)) → Work σ (Except ε (List α))
  | [] => done (.ok [])
  | w :: rest =>
    w.bind fun
      | .error e => done (.error e)
      | .ok x =>
        (trySeq rest).bind fun
          | .error e => done (.error e)
          | .ok xs => done (.ok (x :: xs))

end Work
end ClusterGraph
