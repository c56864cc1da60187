/-!
# UTF-8

A character is written as a first byte, which tells how many bytes follow, and up to three more,
which carry six bits each.

* `Utf8.encode`, `Utf8.decode?` — the bytes of a character, and the character of some bytes.
* `Utf8.sequences` — the characters of a range, as sequences of byte ranges.  Any choice of a byte
  from each range of a sequence is a character, and the sequences are in the order of the codes.
-/

namespace RecordQuery.Utf8

/-- The bytes from the first to the last. -/
abbrev ByteRange := Nat × Nat

/-- What the bytes behind the first are counted from. -/
def following : Nat := 0x80

/-- The least and the greatest code that is written with a certain number of bytes, what the first
byte is counted from, and how many bytes follow.  The gap in the middle is no characters. -/
def forms : List ((Nat × Nat) × Nat × Nat) :=
  [((0x0, 0x7f), 0x0, 0), ((0x80, 0x7ff), 0xc0, 1), ((0x800, 0xd7ff), 0xe0, 2),
    ((0xe000, 0xffff), 0xe0, 2), ((0x10000, 0x10ffff), 0xf0, 3)]

/-- A code in `more + 1` bytes, the first of which is counted from `base`. -/
def encodeWith (base : Nat) : Nat → Nat → List Nat
  | 0, code => [base + code]
  | more + 1, code =>
    let block := Nat.pow 64 (more + 1)
    (base + code / block) :: encodeWith following more (code % block)

/-- **The bytes of a character** with the given code. -/
def encode (code : Nat) : List Nat :=
  match forms.find? fun ((_, last), _) => decide (code ≤ last) with
  | some (_, base, more) => encodeWith base more code
  | none => []

/-- The code of the character with these bytes. -/
def decode? : List Nat → Option Nat
  | [] => none
  | first :: rest => forms.findSome? fun (_, base, more) =>
    let code := rest.foldl (fun code byte => 64 * code + (byte - following)) (first - base)
    if rest.length = more ∧ encode code = first :: rest then some code else none

/-- The codes from `first` to `last`, written with `more + 1` bytes, the first of which is counted
from `base`.  What begins or ends within a block of codes with the same first byte is set apart;
the whole blocks between form one sequence. -/
def sequencesWith (base : Nat) : Nat → Nat → Nat → List (List ByteRange)
  | 0, first, last => [[(base + first, base + last)]]
  | more + 1, first, last =>
    let block := Nat.pow 64 (more + 1)
    let within (i a b : Nat) :=
      (sequencesWith following more a b).map ((base + i, base + i) :: ·)
    let (i, j) := (first / block, last / block)
    if i = j then within i (first % block) (last % block)
    else
      let beginsBlock := first % block = 0
      let endsBlock := last % block = block - 1
      let head := if beginsBlock then [] else within i (first % block) (block - 1)
      let tail := if endsBlock then [] else within j 0 (last % block)
      let (i', j') := (if beginsBlock then i else i + 1, if endsBlock then j + 1 else j)
      let whole := List.replicate (more + 1) (following, following + 0x3f)
      head ++ (if i' < j' then [(base + i', base + (j' - 1)) :: whole] else []) ++ tail

/-- **The characters from `first` to `last`.** -/
def sequences (first last : Nat) : List (List ByteRange) :=
  forms.flatMap fun ((least, greatest), base, more) =>
    let (first, last) := (max first least, min last greatest)
    if first ≤ last then sequencesWith base more first last else []

end RecordQuery.Utf8
