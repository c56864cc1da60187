import RecordQuery.Unicode.WordBreak

/-!
# Sentences

The roles of characters at the boundaries of sentences.

* `sentenceBreaks` — the roles by name.
-/

namespace RecordQuery.Unicode

/-- Full stops, which need not end a sentence. -/
def ambiguousTerminal : CodeRanges :=
  [(0x2e, 0x2e), (0x2024, 0x2024), (0xfe52, 0xfe52), (0xff0e, 0xff0e)]

/-- Brackets and quotation marks around the end of a sentence. -/
def sentenceClose : CodeRanges :=
  [(0x22, 0x22), (0x27, 0x29), (0x5b, 0x5b), (0x5d, 0x5d), (0x7b, 0x7b), (0x7d, 0x7d), (0xab, 0xab),
    (0xbb, 0xbb), (0xf3a, 0xf3d), (0x169b, 0x169c), (0x2018, 0x201f), (0x2039, 0x203a),
    (0x2045, 0x2046), (0x207d, 0x207e), (0x208d, 0x208e), (0x2308, 0x230b), (0x2329, 0x232a),
    (0x275b, 0x2760), (0x2768, 0x2775), (0x27c5, 0x27c6), (0x27e6, 0x27ef), (0x2983, 0x2998),
    (0x29d8, 0x29db), (0x29fc, 0x29fd), (0x2e00, 0x2e0d), (0x2e1c, 0x2e1d), (0x2e20, 0x2e29),
    (0x2e42, 0x2e42), (0x2e55, 0x2e5c), (0x3008, 0x3011), (0x3014, 0x301b), (0x301d, 0x301f),
    (0xfd3e, 0xfd3f), (0xfe17, 0xfe18), (0xfe35, 0xfe44), (0xfe47, 0xfe48), (0xfe59, 0xfe5e),
    (0xff08, 0xff09), (0xff3b, 0xff3b), (0xff3d, 0xff3d), (0xff5b, 0xff5b), (0xff5d, 0xff5d),
    (0xff5f, 0xff60), (0xff62, 0xff63), (0x1f676, 0x1f678)]

/-- Characters that extend the character before them in a sentence. -/
def sentenceExtend : CodeRanges := (wordExtend.without emojiModifier).unite zeroWidthJoiner

/-- Format characters that play another role in sentences. -/
def sentenceFormatException : CodeRanges :=
  [(0x600, 0x605), (0x6dd, 0x6dd), (0x890, 0x891), (0x8e2, 0x8e2), (0x200c, 0x200d),
    (0x110bd, 0x110bd), (0x110cd, 0x110cd), (0xe0020, 0xe007f)]

/-- Format characters in sentences. -/
def sentenceFormat : CodeRanges := format.without sentenceFormatException

/-- Small letters, without Georgian ones, which begin sentences too. -/
def sentenceLower : CodeRanges :=
  (lowercase.without graphemeExtend).without
    [(0x10d0, 0x10fa), (0x10fd, 0x10ff)]

/-- Capital letters, without Georgian ones, which stand anywhere. -/
def sentenceUpper : CodeRanges :=
  (uppercase.unite titlecaseLetter).without [(0x1c90, 0x1cba), (0x1cbd, 0x1cbf)]

/-- Digits, with marks and separators of numbers. -/
def sentenceNumeric : CodeRanges :=
  decimalNumber.unite
    [(0x600, 0x605), (0x66b, 0x66c), (0x6dd, 0x6dd), (0x890, 0x891), (0x8e2, 0x8e2),
     (0x19da, 0x19da), (0x110bd, 0x110bd), (0x110cd, 0x110cd)]

/-- Other letters. -/
def otherSentenceLetter : CodeRanges :=
  (alphabetic.without <| .unionOf [sentenceLower, sentenceUpper, sentenceExtend]).unite
    [(0x5f3, 0x5f3)]

/-- Punctuation within a sentence. -/
def sentenceContinue : CodeRanges :=
  [(0x2c, 0x2d), (0x3a, 0x3b), (0x37e, 0x37e), (0x55d, 0x55d), (0x60c, 0x60d), (0x7f8, 0x7f8),
    (0x1802, 0x1802), (0x1808, 0x1808), (0x2013, 0x2014), (0x3001, 0x3001), (0xfe10, 0xfe11),
    (0xfe13, 0xfe14), (0xfe31, 0xfe32), (0xfe50, 0xfe51), (0xfe54, 0xfe55), (0xfe58, 0xfe58),
    (0xfe63, 0xfe63), (0xff0c, 0xff0d), (0xff1a, 0xff1b), (0xff64, 0xff64)]

/-- Marks that end a sentence. -/
def plainTerminal : CodeRanges := sentenceTerminal.without ambiguousTerminal

/-- Line ends besides the carriage return and the line feed. -/
def paragraphBreak : CodeRanges := [(0x85, 0x85), (0x2028, 0x2029)]

/-- Spaces. -/
def sentenceSpace : CodeRanges :=
  [(0x9, 0x9), (0xb, 0xc), (0x20, 0x20), (0xa0, 0xa0), (0x1680, 0x1680), (0x2000, 0x200a),
    (0x202f, 0x202f), (0x205f, 0x205f), (0x3000, 0x3000)]

/-- Roles of characters at the boundaries of sentences, by name. -/
def sentenceBreaks : List NamedSet :=
  [⟨["aterm", "at"], ambiguousTerminal⟩,
    ⟨["cr"], carriageReturn⟩,
    ⟨["close", "cl"], sentenceClose⟩,
    ⟨["extend", "ex"], sentenceExtend⟩,
    ⟨["format", "fo"], sentenceFormat⟩,
    ⟨["lf"], lineFeed⟩,
    ⟨["lower", "lo"], sentenceLower⟩,
    ⟨["numeric", "nu"], sentenceNumeric⟩,
    ⟨["oletter", "le"], otherSentenceLetter⟩,
    ⟨["scontinue", "sc"], sentenceContinue⟩,
    ⟨["sterm", "st"], plainTerminal⟩,
    ⟨["sep", "se"], paragraphBreak⟩,
    ⟨["sp"], sentenceSpace⟩,
    ⟨["upper", "up"], sentenceUpper⟩]

end RecordQuery.Unicode
