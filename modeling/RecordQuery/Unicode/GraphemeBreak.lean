import RecordQuery.Unicode.Property

/-!
# Units of writing

The roles of characters at the boundaries of what readers take for one character.

* `graphemeBreaks` — the roles by name.
-/

namespace RecordQuery.Unicode

/-- The carriage return. -/
def carriageReturn : CodeRanges := [(0xd, 0xd)]

/-- The line feed. -/
def lineFeed : CodeRanges := [(0xa, 0xa)]

/-- The joiner without width. -/
def zeroWidthJoiner : CodeRanges := [(0x200d, 0x200d)]

/-- Characters that are never joined to their neighbours. -/
def graphemeControl : CodeRanges :=
  [(0x0, 0x9), (0xb, 0xc), (0xe, 0x1f), (0x7f, 0x9f), (0xad, 0xad), (0x61c, 0x61c),
    (0x180e, 0x180e), (0x200b, 0x200b), (0x200e, 0x200f), (0x2028, 0x202e), (0x2060, 0x206f),
    (0xfeff, 0xfeff), (0xfff0, 0xfffb), (0x13430, 0x1343f), (0x1bca0, 0x1bca3), (0x1d173, 0x1d17a),
    (0xe0000, 0xe001f), (0xe0080, 0xe00ff), (0xe01f0, 0xe0fff)]

/-- Characters that extend the character before them. -/
def clusterExtend : CodeRanges := graphemeExtend.unite emojiModifier

/-- Characters to which the next one belongs. -/
def prepend : CodeRanges :=
  [(0x600, 0x605), (0x6dd, 0x6dd), (0x70f, 0x70f), (0x890, 0x891), (0x8e2, 0x8e2), (0xd4e, 0xd4e),
    (0x110bd, 0x110bd), (0x110cd, 0x110cd), (0x111c2, 0x111c3), (0x113d1, 0x113d1),
    (0x1193f, 0x1193f), (0x11941, 0x11941), (0x11a3a, 0x11a3a), (0x11a84, 0x11a89),
    (0x11d46, 0x11d46), (0x11f02, 0x11f02)]

/-- Spacing marks that form a unit of their own. -/
def separateSpacingMark : CodeRanges :=
  [(0x102b, 0x102c), (0x1038, 0x1038), (0x1062, 0x1064), (0x1067, 0x106d), (0x1083, 0x1083),
    (0x1087, 0x108c), (0x108f, 0x108f), (0x109a, 0x109c), (0x1a61, 0x1a61), (0x1a63, 0x1a64),
    (0xaa7b, 0xaa7b), (0xaa7d, 0xaa7d), (0x11720, 0x11721)]

/-- Spacing marks that belong to the character before them, and two vowels that do. -/
def clusterSpacingMark : CodeRanges :=
  ((spacingMark.without graphemeExtend).without separateSpacingMark).unite
    [(0xe33, 0xe33), (0xeb3, 0xeb3)]

/-- Consonants that begin a syllable of Hangul. -/
def leadingConsonant : CodeRanges := [(0x1100, 0x115f), (0xa960, 0xa97c)]

/-- Vowels of a syllable of Hangul. -/
def syllableVowel : CodeRanges :=
  [(0x1160, 0x11a7), (0xd7b0, 0xd7c6), (0x16d63, 0x16d63), (0x16d67, 0x16d6a)]

/-- Consonants that end a syllable of Hangul. -/
def trailingConsonant : CodeRanges := [(0x11a8, 0x11ff), (0xd7cb, 0xd7fb)]

/-- Syllables of Hangul without a consonant at the end: every twenty-eighth of the syllables. -/
def openSyllable : CodeRanges :=
  (List.range 399).map fun i => (0xac00 + 28 * i, 0xac00 + 28 * i)

/-- Syllables of Hangul with a consonant at the end. -/
def closedSyllable : CodeRanges := CodeRanges.without [(0xac00, 0xd7a3)] openSyllable

/-- Roles of characters at the boundaries of units of writing, by name. -/
def graphemeBreaks : List NamedSet :=
  [⟨["cr"], carriageReturn⟩,
    ⟨["control", "cn"], graphemeControl⟩,
    ⟨["extend", "ex"], clusterExtend⟩,
    ⟨["l"], leadingConsonant⟩,
    ⟨["lf"], lineFeed⟩,
    ⟨["lv"], openSyllable⟩,
    ⟨["lvt"], closedSyllable⟩,
    ⟨["prepend", "pp"], prepend⟩,
    ⟨["regionalindicator", "ri"], regionalIndicator⟩,
    ⟨["spacingmark", "sm"], clusterSpacingMark⟩,
    ⟨["t"], trailingConsonant⟩,
    ⟨["v"], syllableVowel⟩,
    ⟨["zwj"], zeroWidthJoiner⟩]

end RecordQuery.Unicode
