import RecordQuery.Text.CodeRanges

/-!
# Blanks

The characters with the property `White_Space`: the space, the tabulators, the line ends and the
spaces of other widths.
-/

namespace RecordQuery

/-- The characters with the property `White_Space`. -/
def blank : CodeRanges :=
  [(0x9, 0xd), (0x20, 0x20), (0x85, 0x85), (0xa0, 0xa0), (0x1680, 0x1680), (0x2000, 0x200a),
    (0x2028, 0x2029), (0x202f, 0x202f), (0x205f, 0x205f), (0x3000, 0x3000)]

/-- Whether a character is a blank. -/
def isBlank (c : Char) : Bool := blank.contains c

end RecordQuery
