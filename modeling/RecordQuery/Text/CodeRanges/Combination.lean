import RecordQuery.Text.CodeRanges

/-!
# Combining sets of characters

Sets of characters are united, complemented, intersected and subtracted, and the result is again
ascending with a gap before each range.

* `CodeRanges.ofRanges` — the set of the characters in any of several ranges.
* `CodeRanges.complement` — the characters outside a set.
* `CodeRanges.intersect`, `CodeRanges.without`, `CodeRanges.exactlyOne` — put together from these
  two.

The codes from `0xD800` to `0xDFFF` are no characters.  No range of a complement begins or ends
with such a code; one within a range stands for nothing.
-/

namespace RecordQuery.CodeRanges

/-- Extends the range from `first` to `last` by those behind it that leave no gap, and keeps the
others. -/
def mergeFrom (first last : Nat) : List (Nat × Nat) → CodeRanges
  | [] => [(first, last)]
  | (next, end') :: rest =>
    if next ≤ last + 1 then mergeFrom first (max last end') rest
    else (first, last) :: mergeFrom next end' rest

/-- The characters in any of the ranges, which may overlap and stand in any order. -/
def ofRanges (ranges : List (Nat × Nat)) : CodeRanges :=
  match ranges.mergeSort fun r s => decide (r.1 ≤ s.1) with
  | [] => []
  | (first, last) :: rest => mergeFrom first last rest

/-- The characters in any of the sets. -/
def unionOf (sets : List CodeRanges) : CodeRanges := ofRanges sets.flatten

/-- The characters in either set. -/
def unite (s t : CodeRanges) : CodeRanges := ofRanges (s ++ t)

/-- The greatest code. -/
def maxCode : Nat := 0x10FFFF

/-- The code of the character before that with this code. -/
def codeBefore (code : Nat) : Nat := if code = 0xE000 then 0xD7FF else code - 1

/-- The code of the character behind that with this code. -/
def codeBehind (code : Nat) : Nat := if code = 0xD7FF then 0xE000 else code + 1

/-- The characters outside the set whose codes are at least `first`. -/
def complementFrom (first : Nat) : CodeRanges → CodeRanges
  | [] => if first ≤ maxCode then [(first, maxCode)] else []
  | (next, last) :: rest =>
    if first < next then (first, codeBefore next) :: complementFrom (codeBehind last) rest
    else complementFrom (codeBehind last) rest

/-- The characters outside the set. -/
def complement (s : CodeRanges) : CodeRanges := complementFrom 0 s

/-- The characters in both sets: those outside of neither. -/
def intersect (s t : CodeRanges) : CodeRanges := (s.complement.unite t.complement).complement

/-- The characters in the first set and not in the second. -/
def without (s t : CodeRanges) : CodeRanges := (s.complement.unite t).complement

/-- The characters in one of the sets and not in the other. -/
def exactlyOne (s t : CodeRanges) : CodeRanges := (s.without t).unite (t.without s)

/-- Every second code from `first` to `last`.  Capital and small letters often take turns. -/
def everySecond (first last : Nat) : CodeRanges :=
  (List.range ((last - first) / 2 + 1)).map fun i => (first + 2 * i, first + 2 * i)

end RecordQuery.CodeRanges
