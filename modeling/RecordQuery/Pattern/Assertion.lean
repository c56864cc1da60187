import RecordQuery.Pattern.Flags

/-!
# Conditions on a position

An anchor or a word boundary matches the empty text, at some positions only.  What it asks for
depends on the flags in force where it stands.

* `Assertion` — as written.
* `Position`, `Assertion.position` — what is asked for.
-/

namespace RecordQuery.Pattern

/-- One of the two ends of something. -/
inductive Edge
  | first
  | last
  deriving DecidableEq, Repr

/-- How a position lies to the words next to it. -/
inductive WordBoundary
  /-- a word begins or ends -/
  | either
  /-- no word begins or ends -/
  | neither
  /-- a word begins or ends, whichever is asked for -/
  | full (edge : Edge)
  /-- no word goes on beyond the edge that is asked for -/
  | half (edge : Edge)
  deriving DecidableEq, Repr

/-- A condition on a position, as written. -/
inductive Assertion
  /-- `^` and `$` -/
  | line (edge : Edge)
  /-- `\A` and `\z` -/
  | text (edge : Edge)
  /-- `\b` and its like -/
  | word (boundary : WordBoundary)
  deriving DecidableEq, Repr

/-- A condition on a position, under the flags where it stands. -/
inductive Position
  /-- an end of the text -/
  | text (edge : Edge)
  /-- an end of a line; `crlf` says that lines end in a carriage return and a line feed -/
  | line (edge : Edge) (crlf : Bool)
  /-- a word boundary; `unicode` says that words consist of more than ASCII -/
  | word (boundary : WordBoundary) (unicode : Bool)
  deriving DecidableEq, Repr

/-- What an assertion asks for.  Unless they match at every line, line anchors match at the ends of
the text. -/
def Assertion.position (f : Flags) : Assertion → Position
  | line edge => if f.multiLine then .line edge f.crlf else .text edge
  | text edge => .text edge
  | word boundary => .word boundary f.unicode

end RecordQuery.Pattern
