import RecordQuery.Text.CodeRanges

/-!
# Separators and controls

The general categories of characters without a glyph.
-/

namespace RecordQuery.Unicode

/-- Spaces. -/
def spaceSeparator : CodeRanges :=
  [(0x20, 0x20), (0xa0, 0xa0), (0x1680, 0x1680), (0x2000, 0x200a), (0x202f, 0x202f),
    (0x205f, 0x205f), (0x3000, 0x3000)]

/-- The separator of lines. -/
def lineSeparator : CodeRanges := [(0x2028, 0x2028)]

/-- The separator of paragraphs. -/
def paragraphSeparator : CodeRanges := [(0x2029, 0x2029)]

/-- Controls. -/
def control : CodeRanges := [(0x0, 0x1f), (0x7f, 0x9f)]

/-- Characters that govern the layout of their neighbours. -/
def format : CodeRanges :=
  [(0xad, 0xad), (0x600, 0x605), (0x61c, 0x61c), (0x6dd, 0x6dd), (0x70f, 0x70f), (0x890, 0x891),
    (0x8e2, 0x8e2), (0x180e, 0x180e), (0x200b, 0x200f), (0x202a, 0x202e), (0x2060, 0x2064),
    (0x2066, 0x206f), (0xfeff, 0xfeff), (0xfff9, 0xfffb), (0x110bd, 0x110bd), (0x110cd, 0x110cd),
    (0x13430, 0x1343f), (0x1bca0, 0x1bca3), (0x1d173, 0x1d17a), (0xe0001, 0xe0001),
    (0xe0020, 0xe007f)]

/-- Codes left to private agreement. -/
def privateUse : CodeRanges := [(0xe000, 0xf8ff), (0xf0000, 0xffffd), (0x100000, 0x10fffd)]

end RecordQuery.Unicode
