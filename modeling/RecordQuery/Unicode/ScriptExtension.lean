import RecordQuery.Unicode.Script

/-!
# Scripts with the characters they share

A character that is shared among scripts, or a mark, is mostly used with a few of them.  In the
wider sense a script contains these characters too, and they are no longer counted among those
shared by all.

* `scriptExtensions` — scripts in the wider sense by name.
-/

namespace RecordQuery.Unicode

/-- What scripts take in beyond their own characters. -/
def borrowings : List NamedSet :=
  [⟨["adlm"], [(0x61f, 0x61f), (0x640, 0x640), (0x204f, 0x204f), (0x2e41, 0x2e41)]⟩,
    ⟨["arab"], [(0x60c, 0x60c), (0x61b, 0x61b), (0x61f, 0x61f), (0x640, 0x640), (0x64b, 0x655),
        (0x670, 0x670), (0x204f, 0x204f), (0x2e41, 0x2e41), (0xfd3e, 0xfd3f), (0x102e0, 0x102fb)]⟩,
    ⟨["armn"], [(0x308, 0x308)]⟩,
    ⟨["avst"], [(0xb7, 0xb7), (0x2e30, 0x2e31)]⟩,
    ⟨["beng"], [(0x2bc, 0x2bc), (0x951, 0x952), (0x964, 0x965), (0x1cd0, 0x1cd0), (0x1cd2, 0x1cd2),
        (0x1cd5, 0x1cd6), (0x1cd8, 0x1cd8), (0x1ce1, 0x1ce1), (0x1cea, 0x1cea), (0x1ced, 0x1ced),
        (0x1cf2, 0x1cf2), (0x1cf5, 0x1cf7), (0xa8f1, 0xa8f1)]⟩,
    ⟨["bopo"], [(0x2c7, 0x2c7), (0x2c9, 0x2cb), (0x2d9, 0x2d9), (0x3001, 0x3003), (0x3008, 0x3011),
        (0x3013, 0x301f), (0x302a, 0x302d), (0x3030, 0x3030), (0x3037, 0x3037), (0x30fb, 0x30fb),
        (0xfe45, 0xfe46), (0xff61, 0xff65)]⟩,
    ⟨["bugi"], [(0xa9cf, 0xa9cf)]⟩,
    ⟨["buhd"], [(0x1735, 0x1736)]⟩,
    ⟨["cari"], [(0xb7, 0xb7), (0x205a, 0x205a), (0x205d, 0x205d), (0x2e31, 0x2e31)]⟩,
    ⟨["aghb"], [(0x304, 0x304), (0x331, 0x331), (0x35e, 0x35e)]⟩,
    ⟨["cakm"], [(0x9e6, 0x9ef), (0x1040, 0x1049)]⟩,
    ⟨["cher"], [(0x300, 0x302), (0x304, 0x304), (0x30b, 0x30c), (0x323, 0x324), (0x330, 0x331)]⟩,
    ⟨["copt"], [(0xb7, 0xb7), (0x300, 0x300), (0x304, 0x305), (0x307, 0x307), (0x374, 0x375),
        (0x2e17, 0x2e17), (0x102e0, 0x102fb)]⟩,
    ⟨["cprt"], [(0x10100, 0x10102), (0x10107, 0x10133), (0x10137, 0x1013f)]⟩,
    ⟨["cpmn"], [(0x10100, 0x10101)]⟩,
    ⟨["cyrl"], [(0x2bc, 0x2bc), (0x300, 0x302), (0x304, 0x304), (0x306, 0x306), (0x308, 0x308),
        (0x30b, 0x30b), (0x311, 0x311), (0x485, 0x486), (0x1df8, 0x1df8), (0x2e43, 0x2e43)]⟩,
    ⟨["deva"], [(0x2bc, 0x2bc), (0x951, 0x952), (0x964, 0x965), (0x1cd0, 0x1cf6), (0x1cf8, 0x1cf9),
        (0x20f0, 0x20f0), (0xa830, 0xa839)]⟩,
    ⟨["dogr"], [(0x964, 0x96f), (0xa830, 0xa839)]⟩,
    ⟨["dupl"], [(0xb7, 0xb7), (0x307, 0x308), (0x30a, 0x30a), (0x323, 0x324), (0x2e3c, 0x2e3c),
        (0x1bca0, 0x1bca3)]⟩,
    ⟨["elba"], [(0xb7, 0xb7), (0x305, 0x305)]⟩,
    ⟨["ethi"], [(0x30e, 0x30e)]⟩,
    ⟨["gara"], [(0x60c, 0x60c), (0x61b, 0x61b), (0x61f, 0x61f)]⟩,
    ⟨["geor"], [(0xb7, 0xb7), (0x589, 0x589), (0x10fb, 0x10fb), (0x205a, 0x205a),
        (0x2e31, 0x2e31)]⟩,
    ⟨["glag"], [(0xb7, 0xb7), (0x303, 0x303), (0x305, 0x305), (0x484, 0x484), (0x487, 0x487),
        (0x589, 0x589), (0x10fb, 0x10fb), (0x205a, 0x205a), (0x2e43, 0x2e43), (0xa66f, 0xa66f)]⟩,
    ⟨["goth"], [(0xb7, 0xb7), (0x304, 0x305), (0x308, 0x308), (0x331, 0x331)]⟩,
    ⟨["gran"], [(0x951, 0x952), (0x964, 0x965), (0xbe6, 0xbf3), (0x1cd0, 0x1cd0), (0x1cd2, 0x1cd3),
        (0x1cf2, 0x1cf4), (0x1cf8, 0x1cf9), (0x20f0, 0x20f0), (0x1133b, 0x1133b),
        (0x11fd0, 0x11fd1), (0x11fd3, 0x11fd3)]⟩,
    ⟨["grek"], [(0xb7, 0xb7), (0x300, 0x301), (0x304, 0x304), (0x306, 0x306), (0x308, 0x308),
        (0x313, 0x313), (0x342, 0x342), (0x345, 0x345), (0x374, 0x374), (0x1dc0, 0x1dc1),
        (0x205d, 0x205d)]⟩,
    ⟨["gujr"], [(0x951, 0x952), (0x964, 0x965), (0xa830, 0xa839)]⟩,
    ⟨["gong"], [(0xb7, 0xb7), (0x964, 0x965)]⟩,
    ⟨["guru"], [(0x951, 0x952), (0x964, 0x965), (0xa830, 0xa839)]⟩,
    ⟨["gukh"], [(0x965, 0x965)]⟩,
    ⟨["hani"], [(0xb7, 0xb7), (0x2ff0, 0x2fff), (0x3001, 0x3003), (0x3006, 0x3006),
        (0x3008, 0x3011), (0x3013, 0x301f), (0x302a, 0x302d), (0x3030, 0x3030), (0x3037, 0x3037),
        (0x303c, 0x303f), (0x30fb, 0x30fb), (0x3190, 0x319f), (0x31c0, 0x31e5), (0x31ef, 0x31ef),
        (0x3220, 0x3247), (0x3280, 0x32b0), (0x32c0, 0x32cb), (0x32ff, 0x32ff), (0x3358, 0x3370),
        (0x337b, 0x337f), (0x33e0, 0x33fe), (0xa700, 0xa707), (0xfe45, 0xfe46), (0xff61, 0xff65),
        (0x1d360, 0x1d371), (0x1f250, 0x1f251)]⟩,
    ⟨["hang"], [(0x3001, 0x3003), (0x3008, 0x3011), (0x3013, 0x301f), (0x3030, 0x3030),
        (0x3037, 0x3037), (0x30fb, 0x30fb), (0xfe45, 0xfe46), (0xff61, 0xff65)]⟩,
    ⟨["rohg"], [(0x60c, 0x60c), (0x61b, 0x61b), (0x61f, 0x61f), (0x640, 0x640), (0x6d4, 0x6d4)]⟩,
    ⟨["hano"], [(0x1735, 0x1736)]⟩,
    ⟨["hebr"], [(0x307, 0x308)]⟩,
    ⟨["hira"], [(0x3001, 0x3003), (0x3008, 0x3011), (0x3013, 0x301f), (0x3030, 0x3035),
        (0x3037, 0x3037), (0x303c, 0x303d), (0x3099, 0x309c), (0x30a0, 0x30a0), (0x30fb, 0x30fc),
        (0xfe45, 0xfe46), (0xff61, 0xff65), (0xff70, 0xff70), (0xff9e, 0xff9f)]⟩,
    ⟨["java"], [(0xa9cf, 0xa9cf)]⟩,
    ⟨["kthi"], [(0x966, 0x96f), (0x2e31, 0x2e31), (0xa830, 0xa839)]⟩,
    ⟨["knda"], [(0x951, 0x952), (0x964, 0x965), (0x1cd0, 0x1cd0), (0x1cd2, 0x1cd3),
        (0x1cda, 0x1cda), (0x1cf2, 0x1cf2), (0x1cf4, 0x1cf4), (0xa830, 0xa835)]⟩,
    ⟨["kana"], [(0x305, 0x305), (0x323, 0x323), (0x3001, 0x3003), (0x3008, 0x3011),
        (0x3013, 0x301f), (0x3030, 0x3035), (0x3037, 0x3037), (0x303c, 0x303d), (0x3099, 0x309c),
        (0x30a0, 0x30a0), (0x30fb, 0x30fc), (0xfe45, 0xfe46), (0xff61, 0xff65), (0xff70, 0xff70),
        (0xff9e, 0xff9f)]⟩,
    ⟨["kali"], [(0xa92e, 0xa92e)]⟩,
    ⟨["khoj"], [(0xae6, 0xaef), (0xa830, 0xa839)]⟩,
    ⟨["sind"], [(0x964, 0x965), (0xa830, 0xa839)]⟩,
    ⟨["latn"], [(0xb7, 0xb7), (0x2bc, 0x2bc), (0x2c7, 0x2c7), (0x2c9, 0x2cb), (0x2cd, 0x2cd),
        (0x2d7, 0x2d7), (0x2d9, 0x2d9), (0x300, 0x30e), (0x310, 0x311), (0x313, 0x313),
        (0x320, 0x320), (0x323, 0x325), (0x32d, 0x32e), (0x330, 0x331), (0x358, 0x358),
        (0x35e, 0x35e), (0x363, 0x36f), (0x485, 0x486), (0x951, 0x952), (0x10fb, 0x10fb),
        (0x1df8, 0x1df8), (0x202f, 0x202f), (0x20f0, 0x20f0), (0x2e17, 0x2e17), (0xa700, 0xa707),
        (0xa92e, 0xa92e)]⟩,
    ⟨["limb"], [(0x965, 0x965)]⟩,
    ⟨["lina"], [(0x10107, 0x10133)]⟩,
    ⟨["linb"], [(0x10100, 0x10102), (0x10107, 0x10133), (0x10137, 0x1013f)]⟩,
    ⟨["lisu"], [(0x2bc, 0x2bc), (0x2cd, 0x2cd), (0x300a, 0x300b)]⟩,
    ⟨["lyci"], [(0x205a, 0x205a)]⟩,
    ⟨["lydi"], [(0xb7, 0xb7), (0x2e31, 0x2e31)]⟩,
    ⟨["mahj"], [(0xb7, 0xb7), (0x964, 0x96f), (0xa830, 0xa839)]⟩,
    ⟨["mlym"], [(0x951, 0x952), (0x964, 0x965), (0x1cda, 0x1cda), (0x1cf2, 0x1cf2),
        (0xa830, 0xa832)]⟩,
    ⟨["mand"], [(0x640, 0x640)]⟩,
    ⟨["mani"], [(0x640, 0x640)]⟩,
    ⟨["gonm"], [(0x964, 0x965)]⟩,
    ⟨["mero"], [(0x205d, 0x205d)]⟩,
    ⟨["modi"], [(0xa830, 0xa839)]⟩,
    ⟨["mong"], [(0x1802, 0x1803), (0x1805, 0x1805), (0x202f, 0x202f), (0x3001, 0x3002),
        (0x3008, 0x300b)]⟩,
    ⟨["mult"], [(0xa66, 0xa6f)]⟩,
    ⟨["mymr"], [(0xa92e, 0xa92e)]⟩,
    ⟨["nand"], [(0x964, 0x965), (0xce6, 0xcef), (0x1ce9, 0x1ce9), (0x1cf2, 0x1cf2),
        (0x1cfa, 0x1cfa), (0xa830, 0xa835)]⟩,
    ⟨["nkoo"], [(0x60c, 0x60c), (0x61b, 0x61b), (0x61f, 0x61f), (0xfd3e, 0xfd3f)]⟩,
    ⟨["onao"], [(0x964, 0x965)]⟩,
    ⟨["hung"], [(0x205a, 0x205a), (0x205d, 0x205d), (0x2e31, 0x2e31), (0x2e41, 0x2e41)]⟩,
    ⟨["perm"], [(0xb7, 0xb7), (0x300, 0x300), (0x306, 0x308), (0x313, 0x313), (0x483, 0x483)]⟩,
    ⟨["orkh"], [(0x205a, 0x205a), (0x2e30, 0x2e30)]⟩,
    ⟨["ougr"], [(0x640, 0x640), (0x10af2, 0x10af2)]⟩,
    ⟨["orya"], [(0x951, 0x952), (0x964, 0x965), (0x1cda, 0x1cda), (0x1cf2, 0x1cf2)]⟩,
    ⟨["osge"], [(0x301, 0x301), (0x304, 0x304), (0x30b, 0x30b), (0x358, 0x358)]⟩,
    ⟨["phag"], [(0x1802, 0x1803), (0x1805, 0x1805), (0x202f, 0x202f), (0x3002, 0x3002)]⟩,
    ⟨["phlp"], [(0x640, 0x640)]⟩,
    ⟨["runr"], [(0x16eb, 0x16ed)]⟩,
    ⟨["samr"], [(0x2e31, 0x2e31)]⟩,
    ⟨["shrd"], [(0x951, 0x951), (0x1cd7, 0x1cd7), (0x1cd9, 0x1cd9), (0x1cdc, 0x1cdd),
        (0x1ce0, 0x1ce0), (0xa830, 0xa835), (0xa838, 0xa838)]⟩,
    ⟨["shaw"], [(0xb7, 0xb7)]⟩,
    ⟨["sinh"], [(0x964, 0x965), (0x1cf2, 0x1cf2)]⟩,
    ⟨["sogd"], [(0x640, 0x640)]⟩,
    ⟨["sunu"], [(0x300, 0x301), (0x303, 0x303), (0x30d, 0x30d), (0x310, 0x310), (0x32d, 0x32d),
        (0x331, 0x331)]⟩,
    ⟨["sylo"], [(0x964, 0x965), (0x9e6, 0x9ef)]⟩,
    ⟨["syrc"], [(0x303, 0x304), (0x307, 0x308), (0x30a, 0x30a), (0x320, 0x320), (0x323, 0x325),
        (0x32d, 0x32e), (0x330, 0x330), (0x60c, 0x60c), (0x61b, 0x61c), (0x61f, 0x61f),
        (0x640, 0x640), (0x64b, 0x655), (0x670, 0x670), (0x1df8, 0x1df8), (0x1dfa, 0x1dfa)]⟩,
    ⟨["tglg"], [(0x1735, 0x1736)]⟩,
    ⟨["tagb"], [(0x1735, 0x1736)]⟩,
    ⟨["tale"], [(0x300, 0x301), (0x307, 0x308), (0x30c, 0x30c), (0x1040, 0x1049)]⟩,
    ⟨["takr"], [(0x964, 0x965), (0xa830, 0xa839)]⟩,
    ⟨["taml"], [(0x951, 0x952), (0x964, 0x965), (0x1cda, 0x1cda), (0xa8f3, 0xa8f3),
        (0x11301, 0x11301), (0x11303, 0x11303), (0x1133b, 0x1133c)]⟩,
    ⟨["tang"], [(0x2ff0, 0x2fff), (0x31ef, 0x31ef)]⟩,
    ⟨["telu"], [(0x951, 0x952), (0x964, 0x965), (0x1cda, 0x1cda), (0x1cf2, 0x1cf2)]⟩,
    ⟨["thaa"], [(0x60c, 0x60c), (0x61b, 0x61c), (0x61f, 0x61f), (0x660, 0x669), (0xfdf2, 0xfdf2),
        (0xfdfd, 0xfdfd)]⟩,
    ⟨["thai"], [(0x2bc, 0x2bc), (0x2d7, 0x2d7), (0x303, 0x303), (0x331, 0x331)]⟩,
    ⟨["tibt"], [(0x3008, 0x300b)]⟩,
    ⟨["tfng"], [(0x302, 0x302), (0x304, 0x304), (0x307, 0x307), (0x309, 0x309)]⟩,
    ⟨["tirh"], [(0x951, 0x952), (0x964, 0x965), (0x1cf2, 0x1cf2), (0xa830, 0xa839)]⟩,
    ⟨["todr"], [(0x301, 0x301), (0x304, 0x304), (0x307, 0x307), (0x311, 0x311), (0x313, 0x313),
        (0x35e, 0x35e)]⟩,
    ⟨["toto"], [(0x2bc, 0x2bc)]⟩,
    ⟨["tutg"], [(0xce6, 0xcef), (0x1cf2, 0x1cf2), (0x1cf4, 0x1cf4), (0xa830, 0xa835),
        (0xa8f1, 0xa8f1)]⟩,
    ⟨["yezi"], [(0x60c, 0x60c), (0x61b, 0x61b), (0x61f, 0x61f), (0x660, 0x669)]⟩,
    ⟨["yiii"], [(0x3001, 0x3002), (0x3008, 0x3011), (0x3014, 0x301b), (0x30fb, 0x30fb),
        (0xff61, 0xff65)]⟩]

/-- A script in the wider sense. -/
def extendScript (script : NamedSet) : NamedSet :=
  if "common" ∈ script.names ∨ "inherited" ∈ script.names then
    { script with
      members := script.members.without (.unionOf (borrowings.map NamedSet.members)) }
  else
    let borrowed := borrowings.filter fun b => b.names.any (· ∈ script.names)
    { script with members := .unionOf (script.members :: borrowed.map NamedSet.members) }

/-- **Scripts in the wider sense, by name.** -/
def scriptExtensions : List NamedSet := scripts.map extendScript

end RecordQuery.Unicode
