import RecordQuery.Unicode.CaseFolding
import RecordQuery.Unicode.GeneralCategory

/-!
# Capital and small characters

What counts as capital or small includes some marks, numerals and symbols that look like letters.
Whether a character changes when a text is put into capital or small letters is mostly a matter
of its case and of whether it has another form; the exceptions are characters that become two.
-/

namespace RecordQuery.Unicode

/-- Small characters that are no small letters. -/
def otherLowercase : CodeRanges :=
  [(0xaa, 0xaa), (0xba, 0xba), (0x2b0, 0x2b8), (0x2c0, 0x2c1), (0x2e0, 0x2e4), (0x345, 0x345),
    (0x37a, 0x37a), (0x10fc, 0x10fc), (0x1d2c, 0x1d6a), (0x1d78, 0x1d78), (0x1d9b, 0x1dbf),
    (0x2071, 0x2071), (0x207f, 0x207f), (0x2090, 0x209c), (0x2170, 0x217f), (0x24d0, 0x24e9),
    (0x2c7c, 0x2c7d), (0xa69c, 0xa69d), (0xa770, 0xa770), (0xa7f2, 0xa7f4), (0xa7f8, 0xa7f9),
    (0xab5c, 0xab5f), (0xab69, 0xab69), (0x10780, 0x10780), (0x10783, 0x10785), (0x10787, 0x107b0),
    (0x107b2, 0x107ba), (0x1e030, 0x1e06d)]

/-- Capital characters that are no capital letters. -/
def otherUppercase : CodeRanges :=
  [(0x2160, 0x216f), (0x24b6, 0x24cf), (0x1f130, 0x1f149), (0x1f150, 0x1f169), (0x1f170, 0x1f189)]

/-- Small characters. -/
def lowercase : CodeRanges := lowercaseLetter.unite otherLowercase

/-- Capital characters. -/
def uppercase : CodeRanges := uppercaseLetter.unite otherUppercase

/-- Characters that have a case. -/
def cased : CodeRanges := .unionOf [lowercase, uppercase, titlecaseLetter]

/-- Points, colons and apostrophes that may stand within a word. -/
def innerPunctuation : CodeRanges :=
  [(0x27, 0x27), (0x2e, 0x2e), (0x3a, 0x3a), (0xb7, 0xb7), (0x387, 0x387), (0x55f, 0x55f),
    (0x5f4, 0x5f4), (0x2018, 0x2019), (0x2024, 0x2024), (0x2027, 0x2027), (0xfe13, 0xfe13),
    (0xfe52, 0xfe52), (0xfe55, 0xfe55), (0xff07, 0xff07), (0xff0e, 0xff0e), (0xff1a, 0xff1a)]

/-- Characters that do not matter when the case of their neighbours is judged. -/
def caseIgnorable : CodeRanges :=
  .unionOf [nonspacingMark, enclosingMark, format, modifierLetter, modifierSymbol,
    innerPunctuation]

/-- Characters that change when a text is put into small letters. -/
def changesWhenLowercased : CodeRanges :=
  ((uppercase.unite titlecaseLetter).intersect hasVariant).unite [(0x130, 0x130)]

/-- Small characters without a single capital form, and the dotless small i. -/
def expandsInCapitals : CodeRanges :=
  [(0x131, 0x131), (0x149, 0x149), (0x1f0, 0x1f0), (0x587, 0x587), (0x1e96, 0x1e9a),
    (0x1f50, 0x1f50), (0x1f52, 0x1f52), (0x1f54, 0x1f54), (0x1f56, 0x1f56), (0x1fb2, 0x1fb2),
    (0x1fb4, 0x1fb4), (0x1fb6, 0x1fb7), (0x1fc2, 0x1fc2), (0x1fc4, 0x1fc4), (0x1fc6, 0x1fc7),
    (0x1fd2, 0x1fd2), (0x1fd6, 0x1fd7), (0x1fe2, 0x1fe2), (0x1fe4, 0x1fe4), (0x1fe6, 0x1fe7),
    (0x1ff2, 0x1ff2), (0x1ff4, 0x1ff4), (0x1ff6, 0x1ff7), (0xfb00, 0xfb04), (0xfb13, 0xfb17)]

/-- Characters that change when a text is put into capital letters. -/
def changesWhenUppercased : CodeRanges :=
  ((lowercase.unite titlecaseLetter).intersect hasVariant).unite expandsInCapitals

/-- Capital letters of two parts whose first part alone can be a capital. -/
def capitalPairs : CodeRanges := [(0x1c4, 0x1c4), (0x1c7, 0x1c7), (0x1ca, 0x1ca), (0x1f1, 0x1f1)]

/-- Characters that change in capitals, but not at the begin of a title. -/
def unchangedInTitles : CodeRanges :=
  [(0x1c5, 0x1c5), (0x1c8, 0x1c8), (0x1cb, 0x1cb), (0x1f2, 0x1f2), (0x10d0, 0x10fa),
    (0x10fd, 0x10ff), (0x1f88, 0x1f8f), (0x1f98, 0x1f9f), (0x1fa8, 0x1faf), (0x1fbc, 0x1fbc),
    (0x1fcc, 0x1fcc), (0x1ffc, 0x1ffc)]

/-- Characters that change at the begin of a title. -/
def changesWhenTitlecased : CodeRanges :=
  (changesWhenUppercased.unite capitalPairs).without unchangedInTitles

/-- Characters that change in one of these ways. -/
def changesWhenCasemapped : CodeRanges :=
  .unionOf [changesWhenLowercased, changesWhenUppercased, changesWhenTitlecased]

/-- Small characters that are not the standard form of their letter. -/
def foldedSmall : CodeRanges :=
  [(0xb5, 0xb5), (0xdf, 0xdf), (0x149, 0x149), (0x17f, 0x17f), (0x345, 0x345), (0x3c2, 0x3c2),
    (0x3d0, 0x3d1), (0x3d5, 0x3d6), (0x3f0, 0x3f1), (0x3f5, 0x3f5), (0x587, 0x587),
    (0x13f8, 0x13fd), (0x1c80, 0x1c88), (0x1e9a, 0x1e9b), (0x1f80, 0x1f87), (0x1f90, 0x1f97),
    (0x1fa0, 0x1fa7), (0x1fb2, 0x1fb4), (0x1fb7, 0x1fb7), (0x1fc2, 0x1fc4), (0x1fc7, 0x1fc7),
    (0x1ff2, 0x1ff4), (0x1ff7, 0x1ff7), (0xab70, 0xabbf), (0xfb00, 0xfb06), (0xfb13, 0xfb17)]

/-- Capital letters that are the standard form of their letter. -/
def standardCapitals : CodeRanges := [(0x13a0, 0x13f5)]

/-- Characters that are not the standard form of their letter. -/
def changesWhenCasefolded : CodeRanges :=
  (changesWhenLowercased.unite foldedSmall).without standardCapitals

/-- Characters with a dot that gives way to a mark above. -/
def softDotted : CodeRanges :=
  [(0x69, 0x6a), (0x12f, 0x12f), (0x249, 0x249), (0x268, 0x268), (0x29d, 0x29d), (0x2b2, 0x2b2),
    (0x3f3, 0x3f3), (0x456, 0x456), (0x458, 0x458), (0x1d62, 0x1d62), (0x1d96, 0x1d96),
    (0x1da4, 0x1da4), (0x1da8, 0x1da8), (0x1e2d, 0x1e2d), (0x1ecb, 0x1ecb), (0x2071, 0x2071),
    (0x2148, 0x2149), (0x2c7c, 0x2c7c), (0x1d422, 0x1d423), (0x1d456, 0x1d457), (0x1d48a, 0x1d48b),
    (0x1d4be, 0x1d4bf), (0x1d4f2, 0x1d4f3), (0x1d526, 0x1d527), (0x1d55a, 0x1d55b),
    (0x1d58e, 0x1d58f), (0x1d5c2, 0x1d5c3), (0x1d5f6, 0x1d5f7), (0x1d62a, 0x1d62b),
    (0x1d65e, 0x1d65f), (0x1d692, 0x1d693), (0x1df1a, 0x1df1a), (0x1e04c, 0x1e04d),
    (0x1e068, 0x1e068)]

end RecordQuery.Unicode
