import RecordQuery.Condition
import RecordQuery.Document

/-!
# Building a document

A builder takes conditions one by one.  Each is checked against the matrix of categories and
operators, and against the rules of patterns while that check is switched on, before it goes into
the document.  **The first fault stays**: from then on the builder neither checks nor adds
anything, so a run reports its earliest fault.

* `Builder.add` — checks a condition and adds it.
* `Builder.checkPatterns` — switches the check of patterns; it governs the additions that follow
  and none that came before.
* `Builder.build` — the document, or the first fault.
-/

namespace RecordQuery

variable [PatternJudge]

/-- A document under construction. -/
structure Builder where
  /-- what has been accepted so far -/
  document : Document
  /-- the first fault -/
  fault : Option Fault
  /-- whether the texts of `$regex` conditions are checked -/
  checksPatterns : Bool
  deriving Inhabited

namespace Builder

/-- A builder that has accepted nothing and does not check patterns. -/
def new : Builder := ⟨.empty, none, false⟩

/-- Switches the check of patterns on or off. -/
def checkPatterns (b : Builder) (enabled : Bool) : Builder := { b with checksPatterns := enabled }

/-- What the builder demands of a condition: first that its operator is legal, then that its
pattern is usable, if patterns are checked. -/
def check (b : Builder) (c : Condition) : Except Fault Unit := do
  c.validate
  if b.checksPatterns then c.checkPattern

/-- **Adds a condition**, or keeps the fault that it has.  After a fault nothing changes. -/
def add (b : Builder) (c : Condition) : Builder :=
  match b.fault with
  | some _ => b
  | none =>
    match b.check c with
    | .error e => { b with fault := some e }
    | .ok () => { b with document := b.document.insert c.key c.operator c.value }

/-- Whether there has been a fault. -/
def isFailed (b : Builder) : Bool := b.fault.isSome

/-- The document, or the first fault. -/
def build (b : Builder) : Except Fault Document :=
  match b.fault with
  | some e => .error e
  | none => .ok b.document

end Builder

end RecordQuery
