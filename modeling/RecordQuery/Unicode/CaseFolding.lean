import RecordQuery.Text.CodeRanges.Combination

/-!
# Letters in either case

When case does not matter, a character stands for all forms of its letter: mostly two, but for
some letters there are signs or title-case forms besides.

* `closeUnderCase` — the set with all forms of its letters.
-/

namespace RecordQuery.Unicode

/-- Stretches in which capital and small letters take turns: the first and the third character
with the one behind each, and so on. -/
def caseTurns : List (Nat × Nat) :=
  [(0x100, 0x12f), (0x132, 0x137), (0x139, 0x148), (0x14a, 0x177), (0x179, 0x17e), (0x182, 0x185),
    (0x187, 0x188), (0x18b, 0x18c), (0x191, 0x192), (0x198, 0x199), (0x1a0, 0x1a5), (0x1a7, 0x1a8),
    (0x1ac, 0x1ad), (0x1af, 0x1b0), (0x1b3, 0x1b6), (0x1b8, 0x1b9), (0x1bc, 0x1bd), (0x1cd, 0x1dc),
    (0x1de, 0x1ef), (0x1f4, 0x1f5), (0x1f8, 0x21f), (0x222, 0x233), (0x23b, 0x23c), (0x241, 0x242),
    (0x246, 0x24f), (0x370, 0x373), (0x376, 0x377), (0x3d8, 0x3ef), (0x3f7, 0x3f8), (0x3fa, 0x3fb),
    (0x460, 0x461), (0x464, 0x481), (0x48a, 0x4bf), (0x4c1, 0x4ce), (0x4d0, 0x52f),
    (0x1c89, 0x1c8a), (0x1e00, 0x1e5f), (0x1e62, 0x1e95), (0x1ea0, 0x1eff), (0x2183, 0x2184),
    (0x2c60, 0x2c61), (0x2c67, 0x2c6c), (0x2c72, 0x2c73), (0x2c75, 0x2c76), (0x2c80, 0x2ce3),
    (0x2ceb, 0x2cee), (0x2cf2, 0x2cf3), (0xa640, 0xa649), (0xa64c, 0xa66d), (0xa680, 0xa69b),
    (0xa722, 0xa72f), (0xa732, 0xa76f), (0xa779, 0xa77c), (0xa77e, 0xa787), (0xa78b, 0xa78c),
    (0xa790, 0xa793), (0xa796, 0xa7a9), (0xa7b4, 0xa7c3), (0xa7c7, 0xa7ca), (0xa7cc, 0xa7cd),
    (0xa7d0, 0xa7d1), (0xa7d6, 0xa7db), (0xa7f5, 0xa7f6), (0xfb05, 0xfb06)]

/-- Stretches of letters, with the distance to the stretch of the same letters in the other case. -/
def caseShifts : List (Nat × Nat × Nat) :=
  [(0x41, 0x4a, 32), (0x4c, 0x52, 32), (0x54, 0x5a, 32), (0xc0, 0xc4, 32), (0xc6, 0xd6, 32),
    (0xd8, 0xde, 32), (0x37b, 0x37d, 130), (0x388, 0x38a, 37), (0x39d, 0x39f, 32),
    (0x400, 0x40f, 80), (0x415, 0x41d, 32), (0x423, 0x429, 32), (0x42b, 0x42f, 32),
    (0x531, 0x556, 48), (0x10a0, 0x10c5, 7264), (0x10d0, 0x10fa, 3008), (0x10fd, 0x10ff, 3008),
    (0x13a0, 0x13ef, 38864), (0x13f0, 0x13f5, 8), (0x1f00, 0x1f07, 8), (0x1f10, 0x1f15, 8),
    (0x1f20, 0x1f27, 8), (0x1f30, 0x1f37, 8), (0x1f40, 0x1f45, 8), (0x1f60, 0x1f67, 8),
    (0x1f72, 0x1f75, 86), (0x1f80, 0x1f87, 8), (0x1f90, 0x1f97, 8), (0x1fa0, 0x1fa7, 8),
    (0x2160, 0x216f, 16), (0x24b6, 0x24cf, 26), (0x2c00, 0x2c2f, 48), (0xff21, 0xff3a, 32),
    (0x10400, 0x10427, 40), (0x104b0, 0x104d3, 40), (0x10570, 0x1057a, 39), (0x1057c, 0x1058a, 39),
    (0x1058c, 0x10592, 39), (0x10c80, 0x10cb2, 64), (0x10d50, 0x10d65, 32), (0x118a0, 0x118bf, 32),
    (0x16e40, 0x16e5f, 32), (0x1e900, 0x1e921, 34)]

/-- Single letters with their other case. -/
def casePairs : List (Nat × Nat) :=
  [(0xdf, 0x1e9e), (0xff, 0x178), (0x180, 0x243), (0x181, 0x253), (0x186, 0x254), (0x189, 0x256),
    (0x18a, 0x257), (0x18e, 0x1dd), (0x18f, 0x259), (0x190, 0x25b), (0x193, 0x260), (0x194, 0x263),
    (0x195, 0x1f6), (0x196, 0x269), (0x197, 0x268), (0x19a, 0x23d), (0x19b, 0xa7dc), (0x19c, 0x26f),
    (0x19d, 0x272), (0x19e, 0x220), (0x19f, 0x275), (0x1a6, 0x280), (0x1a9, 0x283), (0x1ae, 0x288),
    (0x1b1, 0x28a), (0x1b2, 0x28b), (0x1b7, 0x292), (0x1bf, 0x1f7), (0x23a, 0x2c65),
    (0x23e, 0x2c66), (0x23f, 0x2c7e), (0x240, 0x2c7f), (0x244, 0x289), (0x245, 0x28c),
    (0x250, 0x2c6f), (0x251, 0x2c6d), (0x252, 0x2c70), (0x25c, 0xa7ab), (0x261, 0xa7ac),
    (0x264, 0xa7cb), (0x265, 0xa78d), (0x266, 0xa7aa), (0x26a, 0xa7ae), (0x26b, 0x2c62),
    (0x26c, 0xa7ad), (0x271, 0x2c6e), (0x27d, 0x2c64), (0x282, 0xa7c5), (0x287, 0xa7b1),
    (0x29d, 0xa7b2), (0x29e, 0xa7b0), (0x37f, 0x3f3), (0x386, 0x3ac), (0x38c, 0x3cc),
    (0x38e, 0x3cd), (0x38f, 0x3ce), (0x390, 0x1fd3), (0x391, 0x3b1), (0x393, 0x3b3), (0x394, 0x3b4),
    (0x396, 0x3b6), (0x397, 0x3b7), (0x39b, 0x3bb), (0x3a4, 0x3c4), (0x3a5, 0x3c5), (0x3a7, 0x3c7),
    (0x3a8, 0x3c8), (0x3aa, 0x3ca), (0x3ab, 0x3cb), (0x3b0, 0x1fe3), (0x3cf, 0x3d7), (0x3f2, 0x3f9),
    (0x410, 0x430), (0x411, 0x431), (0x413, 0x433), (0x41f, 0x43f), (0x420, 0x440), (0x4c0, 0x4cf),
    (0x10c7, 0x2d27), (0x10cd, 0x2d2d), (0x1d79, 0xa77d), (0x1d7d, 0x2c63), (0x1d8e, 0xa7c6),
    (0x1f51, 0x1f59), (0x1f53, 0x1f5b), (0x1f55, 0x1f5d), (0x1f57, 0x1f5f), (0x1f70, 0x1fba),
    (0x1f71, 0x1fbb), (0x1f76, 0x1fda), (0x1f77, 0x1fdb), (0x1f78, 0x1ff8), (0x1f79, 0x1ff9),
    (0x1f7a, 0x1fea), (0x1f7b, 0x1feb), (0x1f7c, 0x1ffa), (0x1f7d, 0x1ffb), (0x1fb0, 0x1fb8),
    (0x1fb1, 0x1fb9), (0x1fb3, 0x1fbc), (0x1fc3, 0x1fcc), (0x1fd0, 0x1fd8), (0x1fd1, 0x1fd9),
    (0x1fe0, 0x1fe8), (0x1fe1, 0x1fe9), (0x1fe5, 0x1fec), (0x1ff3, 0x1ffc), (0x2132, 0x214e),
    (0xa794, 0xa7c4), (0xa7b3, 0xab53), (0x10594, 0x105bb), (0x10595, 0x105bc)]

/-- Letters with more than two forms. -/
def caseFamilies : List (List Nat) :=
  [[0x4b, 0x6b, 0x212a], [0x53, 0x73, 0x17f], [0xb5, 0x39c, 0x3bc], [0xc5, 0xe5, 0x212b],
    [0x1c4, 0x1c5, 0x1c6], [0x1c7, 0x1c8, 0x1c9], [0x1ca, 0x1cb, 0x1cc], [0x1f1, 0x1f2, 0x1f3],
    [0x345, 0x399, 0x3b9, 0x1fbe], [0x392, 0x3b2, 0x3d0], [0x395, 0x3b5, 0x3f5],
    [0x398, 0x3b8, 0x3d1, 0x3f4], [0x39a, 0x3ba, 0x3f0], [0x3a0, 0x3c0, 0x3d6],
    [0x3a1, 0x3c1, 0x3f1], [0x3a3, 0x3c2, 0x3c3], [0x3a6, 0x3c6, 0x3d5], [0x3a9, 0x3c9, 0x2126],
    [0x412, 0x432, 0x1c80], [0x414, 0x434, 0x1c81], [0x41e, 0x43e, 0x1c82], [0x421, 0x441, 0x1c83],
    [0x422, 0x442, 0x1c84, 0x1c85], [0x42a, 0x44a, 0x1c86], [0x462, 0x463, 0x1c87],
    [0x1c88, 0xa64a, 0xa64b], [0x1e60, 0x1e61, 0x1e9b]]

/-- Every pair of two forms of one letter, in either order, ascending. -/
def caseVariants : List (Nat × Nat) :=
  let turns := caseTurns.flatMap fun (first, last) =>
    (CodeRanges.everySecond first last).map fun (code, _) => (code, code + 1)
  let shifts := caseShifts.flatMap fun (first, last, distance) =>
    (List.range (last - first + 1)).map fun i => (first + i, first + i + distance)
  let families := caseFamilies.flatMap fun forms =>
    forms.flatMap fun form => (forms.filter (· ≠ form)).map fun other => (form, other)
  let pairs := turns ++ shifts ++ casePairs
  (pairs ++ pairs.map Prod.swap ++ families).mergeSort fun p q => decide (p.1 ≤ q.1)

/-- The other forms of the letters in a set, one range for each. -/
def variantsOf : CodeRanges → List (Nat × Nat) → List (Nat × Nat)
  | _, [] => []
  | s, (code, variant) :: rest =>
    let ahead : CodeRanges := s.dropWhile fun r => decide (r.2 < code)
    if CodeRanges.containsCode ahead code then (variant, variant) :: variantsOf ahead rest
    else variantsOf ahead rest

/-- **The set with all forms of its letters.** -/
def closeUnderCase (s : CodeRanges) : CodeRanges := .ofRanges (s ++ variantsOf s caseVariants)

/-- The characters that have another form. -/
def hasVariant : CodeRanges := .ofRanges (caseVariants.map fun (code, _) => (code, code))

end RecordQuery.Unicode
