/-!
# The extent of an automaton

A pattern is executed by automata.  An automaton is laid out state by state: a state takes 32
bytes, each of several ways that lead from it on any character 4 more, and each way on a range of
bytes 8 more.  It may take ten mebibytes, and the layout stops where it would take more.

* `Extent` — what has been laid out.
* `Extent.add` — lays out some states.
* `Extent.iterate` — lays out something several times.
-/

namespace RecordQuery.Pattern

/-- What has been laid out of an automaton. -/
structure Extent where
  /-- the number of states, which are numbered as they are laid out -/
  states : Nat
  /-- the memory of the ways that lead from them, in bytes -/
  ways : Nat
  deriving DecidableEq, Repr

namespace Extent

/-- Nothing has been laid out. -/
def zero : Extent := ⟨0, 0⟩

/-- Two parts together. -/
protected def plus (x y : Extent) : Extent := ⟨x.states + y.states, x.ways + y.ways⟩

instance : Add Extent := ⟨Extent.plus⟩

/-- The memory of a state. -/
def stateSize : Nat := 32

/-- The memory of a way on any character. -/
def waySize : Nat := 4

/-- The memory of a way on a range of bytes. -/
def rangeSize : Nat := 8

/-- The memory in bytes. -/
def memory (x : Extent) : Nat := stateSize * x.states + x.ways

/-- The memory that an automaton may take: ten mebibytes. -/
def maxMemory : Nat := 10 * 1024 * 1024

/-- Lays out some states, with `ways` bytes for the ways that lead from them, if they fit. -/
def add (states ways : Nat) (x : Extent) : Option Extent :=
  let x' := x + ⟨states, ways⟩
  if x'.memory ≤ maxMemory then some x' else none

/-- Lays out something a number of times, if it fits. -/
def iterate (f : Extent → Option Extent) : Nat → Extent → Option Extent
  | 0, x => some x
  | n + 1, x =>
    match f x with
    | none => none
    | some x => iterate f n x

end Extent

end RecordQuery.Pattern
