/-!
# Sets of characters as code ranges

The standard gives a property of characters as a table of code ranges.  `CodeRanges` is such a
table, ascending and without overlaps, and `CodeRanges.contains` looks a character up in it.  The
look-up stops at the first range that begins beyond the character, so for small codes it reads
only the first few ranges of a long table.
-/

namespace RecordQuery

/-- A set of characters: ascending, disjoint ranges of codes, both ends included. -/
abbrev CodeRanges := List (Nat × Nat)

namespace CodeRanges

/-- Whether a code lies in one of the ranges. -/
def containsCode : CodeRanges → Nat → Bool
  | [], _ => false
  | (first, last) :: rest, code =>
    if code < first then false
    else if code ≤ last then true
    else containsCode rest code

/-- Whether a character lies in one of the ranges. -/
def contains (t : CodeRanges) (c : Char) : Bool := containsCode t c.toNat

end CodeRanges

end RecordQuery
