import RecordQuery.Pattern.ClassAutomaton
import RecordQuery.Pattern.LiteralTrie
import RecordQuery.Pattern.Meaning

/-!
# The automata of a pattern

A pattern is executed by two automata, one that reads a text forwards and one that reads it
backwards to find where a match begins.  Repetitions with counts are unrolled, so nested counts
multiply, and each of the automata must fit into the memory for one.

* `Expression.layOut` — lays out an expression as a part of an automaton.
* `Expression.fits` — whether both automata fit.
* `Pattern.fits` — whether the automata of a pattern do.

A part of an automaton has one state where it begins and one where it ends, from which a way leads
on.  The sizes below count that way with the state from which it starts.
-/

namespace RecordQuery.Pattern

namespace Expression

/-- A state from which two ways lead. -/
def fork (x : Extent) : Option Extent := x.add 1 (2 * Extent.waySize)

/-- Lays out a repetition of a part.  Required rounds are laid out one after the other; optional
ones have a way around each.  A way back makes any number of rounds out of one; if a round can be
empty, the first one has a way around it besides. -/
def layOutRepetition (round : Extent → Option Extent) (consumes : Bool) :
    Nat → Option Nat → Extent → Option Extent
  | 0, none, x =>
    if consumes then do round (← fork x)
    else do (← fork (← fork (← round x))).add 1 0
  | least, none, x => do fork (← x.iterate round least)
  | 0, some 1, x => do (← round (← fork x)).add 1 0
  | least, some most, x => do
    let x ← if least = 0 then x.add 1 0 else x.iterate round least
    if most = least then return x
    else
      let x ← x.add 1 0
      x.iterate (fun x => do round (← fork x)) (most - least)

mutual

/-- **Lays out an expression.** -/
def layOut (d : Direction) : Expression → Extent → Option Extent
  | empty, x => x.add 1 0
  | literal bytes, x => x.add bytes.length 0
  | oneOf s, x => layOutClass d s x
  | position _, x => x.add 1 0
  | repetition body least most _, x =>
    layOutRepetition (layOut d body) (body.leastLength.any (0 < ·)) least most x
  | capture body, x =>
    match d with
    | .forward => do (← layOut d body (← x.add 1 0)).add 1 0
    | .backward => layOut d body x
  | sequence items, x =>
    match d with
    | .forward => layOutForwards d items x
    | .backward => layOutBackwards d items x
  | alternatives branches, x =>
    match branches.mapM literal? with
    | some texts =>
      let texts := match d with
        | .forward => texts
        | .backward => texts.map List.reverse
      (LiteralTrie.ofTexts texts).layOut x
    | none => layOutBranches d branches x

/-- Lays out expressions in their order. -/
def layOutForwards (d : Direction) : List Expression → Extent → Option Extent
  | [], x => some x
  | e :: es, x => do layOutForwards d es (← layOut d e x)

/-- Lays out expressions in the opposite order. -/
def layOutBackwards (d : Direction) : List Expression → Extent → Option Extent
  | [], x => some x
  | e :: es, x => do layOut d e (← layOutBackwards d es x)

/-- Lays out alternatives, with a state where they part and one where they meet behind the first
two of them. -/
def layOutBranches (d : Direction) : List Expression → Extent → Option Extent
  | first :: second :: es, x => do
    let x ← layOut d second (← layOut d first x)
    layOutForwards d es (← x.add 2 ((es.length + 2) * Extent.waySize))
  | es, x => layOutForwards d es x

end

/-- Lays out the automaton of an expression.  Unless every match lies at the end of the text from
which it is read, it begins with three states that pass over what stands before a match.  On the
way forwards, two states mark where a match begins and ends; one more accepts it. -/
def layOutAll (d : Direction) (e : Expression) : Option Extent := do
  let edge := match d with
    | .forward => .first
    | .backward => .last
  let marks := match d with
    | .forward => 1
    | .backward => 0
  let x ← if e.isAnchored edge then Extent.zero.add 1 0
    else Extent.zero.add 3 (2 * Extent.waySize + Extent.rangeSize)
  let x ← e.layOut d (← x.add marks 0)
  x.add (marks + 1) 0

/-- **Whether both automata fit.** -/
def fits (e : Expression) : Bool :=
  (e.layOutAll .forward).isSome && (e.layOutAll .backward).isSome

end Expression

/-- **Whether the automata of a pattern fit** into the memory for one each. -/
def fits (p : Pattern) : Bool := (Expression.ofPattern p).fits

end RecordQuery.Pattern
