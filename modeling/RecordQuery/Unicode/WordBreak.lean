import RecordQuery.Unicode.GraphemeBreak
import RecordQuery.Unicode.Script

/-!
# Words

The roles of characters at the boundaries of words.

* `wordBreaks` — the roles by name.
-/

namespace RecordQuery.Unicode

/-- The straight quotation mark. -/
def doubleQuote : CodeRanges := [(0x22, 0x22)]

/-- The straight apostrophe. -/
def singleQuote : CodeRanges := [(0x27, 0x27)]

/-- Hebrew letters. -/
def hebrewLetter : CodeRanges :=
  [(0x5d0, 0x5ea), (0x5ef, 0x5f2), (0xfb1d, 0xfb1d), (0xfb1f, 0xfb28), (0xfb2a, 0xfb36),
    (0xfb38, 0xfb3c), (0xfb3e, 0xfb3e), (0xfb40, 0xfb41), (0xfb43, 0xfb44), (0xfb46, 0xfb4f)]

/-- Katakana and the marks used with it. -/
def katakana : CodeRanges :=
  [(0x3031, 0x3035), (0x309b, 0x309c), (0x30a0, 0x30fa), (0x30fc, 0x30ff), (0x31f0, 0x31ff),
    (0x32d0, 0x32fe), (0x3300, 0x3357), (0xff66, 0xff9d), (0x1aff0, 0x1aff3), (0x1aff5, 0x1affb),
    (0x1affd, 0x1affe), (0x1b000, 0x1b000), (0x1b120, 0x1b122), (0x1b155, 0x1b155),
    (0x1b164, 0x1b167)]

/-- Hiragana. -/
def hiragana : CodeRanges := (NamedSet.find? ownScripts "hira").getD []

/-- Characters that extend the character before them in a word. -/
def wordExtend : CodeRanges := .unionOf [graphemeExtend, spacingMark, emojiModifier]

/-- Letters of scripts that do not part words by spaces. -/
def unspacedLetter : CodeRanges :=
  [(0xe01, 0xe30), (0xe32, 0xe33), (0xe40, 0xe46), (0xe81, 0xe82), (0xe84, 0xe84), (0xe86, 0xe8a),
    (0xe8c, 0xea3), (0xea5, 0xea5), (0xea7, 0xeb0), (0xeb2, 0xeb3), (0xebd, 0xebd), (0xec0, 0xec4),
    (0xec6, 0xec6), (0xedc, 0xedf), (0x1000, 0x102a), (0x103f, 0x103f), (0x1050, 0x1055),
    (0x105a, 0x105d), (0x1061, 0x1061), (0x1065, 0x1066), (0x106e, 0x1070), (0x1075, 0x1081),
    (0x108e, 0x108e), (0x1780, 0x17b3), (0x17d7, 0x17d7), (0x17dc, 0x17dc), (0x1950, 0x196d),
    (0x1970, 0x1974), (0x1980, 0x19ab), (0x19b0, 0x19c9), (0x1a20, 0x1a54), (0x1aa7, 0x1aa7),
    (0xa9e0, 0xa9e4), (0xa9e6, 0xa9ef), (0xa9fa, 0xa9fe), (0xaa60, 0xaa76), (0xaa7a, 0xaa7a),
    (0xaa7e, 0xaaaf), (0xaab1, 0xaab1), (0xaab5, 0xaab6), (0xaab9, 0xaabd), (0xaac0, 0xaac0),
    (0xaac2, 0xaac2), (0xaadb, 0xaadd), (0x11700, 0x1171a), (0x11740, 0x11746)]

/-- Symbols and marks that count as letters of words. -/
def wordSymbol : CodeRanges :=
  [(0x2c2, 0x2c5), (0x2d2, 0x2d7), (0x2de, 0x2df), (0x2e5, 0x2eb), (0x2ed, 0x2ed), (0x2ef, 0x2ff),
    (0x55a, 0x55c), (0x55e, 0x55e), (0x58a, 0x58a), (0x5f3, 0x5f3), (0x70f, 0x70f),
    (0xa708, 0xa716), (0xa720, 0xa721), (0xa789, 0xa78a), (0xab5b, 0xab5b)]

/-- Letters of words. -/
def wordLetter : CodeRanges :=
  (alphabetic.without <| .unionOf [ideographic, katakana, hiragana, wordExtend, hebrewLetter,
    unspacedLetter]).unite wordSymbol

/-- Punctuation that joins words and numbers. -/
def wordConnector : CodeRanges :=
  [(0x5f, 0x5f), (0x202f, 0x202f), (0x203f, 0x2040), (0x2054, 0x2054), (0xfe33, 0xfe34),
    (0xfe4d, 0xfe4f), (0xff3f, 0xff3f)]

/-- Format characters that play another role in words. -/
def wordFormatException : CodeRanges :=
  [(0x600, 0x605), (0x6dd, 0x6dd), (0x70f, 0x70f), (0x890, 0x891), (0x8e2, 0x8e2), (0x200b, 0x200d),
    (0x110bd, 0x110bd), (0x110cd, 0x110cd), (0xe0020, 0xe007f)]

/-- Format characters in words. -/
def wordFormat : CodeRanges := format.without wordFormatException

/-- Punctuation between letters. -/
def midLetter : CodeRanges :=
  [(0x3a, 0x3a), (0xb7, 0xb7), (0x387, 0x387), (0x55f, 0x55f), (0x5f4, 0x5f4), (0x2027, 0x2027),
    (0xfe13, 0xfe13), (0xfe55, 0xfe55), (0xff1a, 0xff1a)]

/-- Punctuation between digits. -/
def midNumber : CodeRanges :=
  [(0x2c, 0x2c), (0x3b, 0x3b), (0x37e, 0x37e), (0x589, 0x589), (0x60c, 0x60d), (0x66c, 0x66c),
    (0x7f8, 0x7f8), (0x2044, 0x2044), (0xfe50, 0xfe50), (0xfe54, 0xfe54), (0xff0c, 0xff0c),
    (0xff1b, 0xff1b)]

/-- Punctuation between letters or digits. -/
def midNumberOrLetter : CodeRanges :=
  [(0x2e, 0x2e), (0x2018, 0x2019), (0x2024, 0x2024), (0xfe52, 0xfe52), (0xff07, 0xff07),
    (0xff0e, 0xff0e)]

/-- Line ends besides the carriage return and the line feed. -/
def newline : CodeRanges := [(0xb, 0xc), (0x85, 0x85), (0x2028, 0x2029)]

/-- Spaces that form one gap with their like. -/
def wordSpace : CodeRanges :=
  [(0x20, 0x20), (0x1680, 0x1680), (0x2000, 0x2006), (0x2008, 0x200a), (0x205f, 0x205f),
    (0x3000, 0x3000)]

/-- Digits, with marks and separators of numbers. -/
def wordNumeric : CodeRanges :=
  decimalNumber.unite
    [(0x600, 0x605), (0x66b, 0x66b), (0x6dd, 0x6dd), (0x890, 0x891), (0x8e2, 0x8e2),
     (0x19da, 0x19da), (0x110bd, 0x110bd), (0x110cd, 0x110cd)]

/-- Roles of characters at the boundaries of words, by name. -/
def wordBreaks : List NamedSet :=
  [⟨["aletter", "le"], wordLetter⟩,
    ⟨["cr"], carriageReturn⟩,
    ⟨["doublequote", "dq"], doubleQuote⟩,
    ⟨["extend"], wordExtend⟩,
    ⟨["extendnumlet", "ex"], wordConnector⟩,
    ⟨["format", "fo"], wordFormat⟩,
    ⟨["hebrewletter", "hl"], hebrewLetter⟩,
    ⟨["katakana", "ka"], katakana⟩,
    ⟨["lf"], lineFeed⟩,
    ⟨["midletter", "ml"], midLetter⟩,
    ⟨["midnum", "mn"], midNumber⟩,
    ⟨["midnumlet", "mb"], midNumberOrLetter⟩,
    ⟨["newline", "nl"], newline⟩,
    ⟨["numeric", "nu"], wordNumeric⟩,
    ⟨["regionalindicator", "ri"], regionalIndicator⟩,
    ⟨["singlequote", "sq"], singleQuote⟩,
    ⟨["wsegspace"], wordSpace⟩,
    ⟨["zwj"], zeroWidthJoiner⟩]

end RecordQuery.Unicode
