import RecordQuery.Pattern.Cache
import RecordQuery.Pattern.Extent
import RecordQuery.Text.CodeRanges
import RecordQuery.Text.Utf8

/-!
# The automaton of a class of characters

Within ASCII one state reads all ranges.  Beyond it a character is several bytes, and there are
two ways to lay out the automaton.

* `layOutForward` — for reading a text forwards.  The byte sequences are ascending, so as soon as
  two neighbours part, the states behind the place where they part have all their ways.  A state
  with the same ways as one that is remembered is that state.
* `layOutBackward` — for reading a text backwards.  Each byte of a sequence has a state, and
  sequences that begin alike share those states as far as they are remembered.
-/

namespace RecordQuery.Pattern

open Utf8 (ByteRange)

/-- A part of an automaton in the making, with the states that it remembers. -/
structure Sharing where
  /-- what has been laid out -/
  extent : Extent
  /-- the states that are remembered -/
  known : Cache

/-- The number of a state with these ways, which is laid out unless it is remembered. -/
def Sharing.state (s : Sharing) (ways : List Nat) (memory : Nat) : Option (Nat × Sharing) :=
  match s.known.find? ways with
  | some number => some (number, s)
  | none => do
    let number := s.extent.states
    return (number, ⟨← s.extent.add 1 memory, s.known.insert ways number⟩)

/-! ## Forwards -/

/-- A state to which ways may yet be added. -/
structure OpenState where
  /-- its ways, each given by the first and the last byte and by the state it leads to, the last
  way first -/
  ways : List (Nat × Nat × Nat)
  /-- the bytes of one more way, whose state is open as well -/
  next : ByteRange

namespace OpenState

/-- All ways, when it is known where the last one leads. -/
def allWays (o : OpenState) (target : Nat) : List (Nat × Nat × Nat) :=
  (o.next.1, o.next.2, target) :: o.ways

/-- Lays out a path of open states, from the last one to the first.  The path leads to `target`;
the result is where it begins. -/
def closeAll (target : Nat) : List OpenState → Sharing → Option (Nat × Sharing)
  | [], s => some (target, s)
  | o :: path, s => do
    let (next, s) ← closeAll target path s
    let ways := (o.allWays next).reverse
    s.state (ways.flatMap fun (first, last, goal) => [first, last, goal])
      (Extent.rangeSize * ways.length)

/-- Adds a sequence to the open path.  What the path does not share with it is laid out. -/
def addSequence (target : Nat) :
    List OpenState → List ByteRange → Sharing → Option (List OpenState × Sharing)
  | o :: path, r :: rest, s =>
    if o.next = r then do
      let (path, s) ← addSequence target path rest s
      return (o :: path, s)
    else do
      let (next, s) ← closeAll target path s
      return (⟨o.allWays next, r⟩ :: rest.map (⟨[], ·⟩), s)
  | _, rest, s => some (rest.map (⟨[], ·⟩), s)

/-- Adds several sequences to the open path. -/
def addSequences (target : Nat) :
    List OpenState → List (List ByteRange) → Sharing → Option (List OpenState × Sharing)
  | path, [], s => some (path, s)
  | path, sequence :: rest, s =>
    match addSequence target path sequence s with
    | none => none
    | some (path, s) => addSequences target path rest s

end OpenState

/-- The number of slots for states on the way forwards. -/
def forwardSlots : Nat := 10000

/-- Lays out byte sequences, with all states sharing what they can. -/
def layOutForward (sequences : List (List ByteRange)) (x : Extent) : Option Extent := do
  let target := x.states
  let (path, s) ←
    OpenState.addSequences target [] sequences ⟨← x.add 1 0, .empty forwardSlots⟩
  let (_, s) ← OpenState.closeAll target path s
  return s.extent

/-! ## Backwards -/

/-- Lays out the states of a sequence, each of which leads to the one before it and the first to
`target`.  The result is the last one. -/
def laySequence : Nat → List ByteRange → Sharing → Option (Nat × Sharing)
  | target, [], s => some (target, s)
  | target, (first, last) :: rest, s =>
    match s.state [target, first, last] 0 with
    | none => none
    | some (number, s) => laySequence number rest s

/-- Lays out several sequences. -/
def laySequences (target : Nat) : List (List ByteRange) → Sharing → Option Sharing
  | [], s => some s
  | sequence :: rest, s =>
    match laySequence target sequence s with
    | none => none
    | some (_, s) => laySequences target rest s

/-- The number of slots for states on the way backwards. -/
def backwardSlots : Nat := 1000

/-- Lays out byte sequences, to each of which there is a way from one state. -/
def layOutBackward (sequences : List (List ByteRange)) (x : Extent) : Option Extent := do
  let target := x.states + 1
  let x ← x.add 2 (Extent.waySize * sequences.length)
  let s ← laySequences target sequences ⟨x, .empty backwardSlots⟩
  return s.extent

/-! ## Both -/

/-- The way in which a text is read. -/
inductive Direction
  | forward
  | backward
  deriving DecidableEq, Repr

/-- **Lays out the automaton of a class.** -/
def layOutClass (d : Direction) (members : CodeRanges) (x : Extent) : Option Extent :=
  if members.all fun (_, last) => decide (last < 0x80) then
    x.add 2 (Extent.rangeSize * members.length)
  else
    let sequences := members.flatMap fun (first, last) => Utf8.sequences first last
    match d with
    | .forward => layOutForward sequences x
    | .backward => layOutBackward sequences x

end RecordQuery.Pattern
