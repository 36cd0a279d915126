import ClusterGraph.Work.Basic

/-!
# Cancellation and deadlines

Bounded work is abandoned when its request is cancelled or its deadline comes. Whenever it is woken,
a cancellation counts first, then whatever the work itself can still do, then the deadline; so work
that finishes exactly at the deadline counts as finished.

The clock has an end. A time that would lie beyond it does not exist. Since limits are whole
milliseconds and the end lies at the end of a second, nothing is lost by counting in milliseconds.
-/
namespace ClusterGraph

/-- The last millisecond of the clock: seconds are signed 64-bit numbers. -/
def clockEnd : Nat := (Nat.pow 2 63 - 1) * 1000 + 999

/-- The time a while after another, if the clock reaches it. -/
def later? (time delay : Nat) : Option Nat :=
  if time + delay ≤ clockEnd then some (time + delay) else none

/-- A request for cancellation at a time has been made by now. -/
def cancelled {σ : Type} [Clocked σ] (cancelAt : Option Nat) (s : σ) : Bool :=
  match cancelAt with
  | some t => t ≤ Clocked.now s
  | none => false

namespace Work
variable {σ α : Type} [Clocked σ]

/-- Work under a deadline that was started before any cancellation. -/
def limited (cancelAt : Option Nat) (deadline : Nat) (onCancel onDeadline : α) : Work σ α → Work σ α
  | done a => done a
  | act update next => act update fun s => (next s).limited cancelAt deadline onCancel onDeadline
  | wait ready abandon timers next =>
    look fun s =>
      if deadline ≤ Clocked.now s then act abandon fun _ => done onDeadline
      else
        wait (fun s => cancelled cancelAt s || ready s || deadline ≤ Clocked.now s) abandon
          (deadline :: (cancelAt.toList ++ timers))
          (look fun s =>
            if cancelled cancelAt s then act abandon fun _ => done onCancel
            else if ready s then next.limited cancelAt deadline onCancel onDeadline
            else act abandon fun _ => done onDeadline)

/-- Bounded work. It is not started at all if it is cancelled beforehand. -/
def bounded (cancelAt : Option Nat) (deadline : Nat) (onCancel onDeadline : α) (work : Work σ α) :
    Work σ α :=
  look fun s =>
    if cancelled cancelAt s then done onCancel
    else work.limited cancelAt deadline onCancel onDeadline

end Work
end ClusterGraph
