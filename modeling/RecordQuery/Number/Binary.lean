/-!
# Binary floating-point numbers

Floating-point numbers in single and double precision, kept as their bits.  Everything that a
query needs of them can be read off the bits by integer arithmetic: whether they are finite,
whether two of them are equal as numbers, which exact multiple of a power of two they stand for,
and how a single widens to a double.

* `Binary32`, `Binary64` — the two formats.
* `Binary64.agrees` — equality as numbers: a NaN agrees with nothing, not even with itself, and
  the two zeros agree although their bits differ.
* `Binary64.significand`, `Binary64.scale` — the exact value `significand * 2 ^ scale`.
* `Binary32.widen` — the double of the same value.

A double is unset only if *all* its bits are clear, so the negative zero counts as set.
-/

namespace RecordQuery

/-- A single-precision number: one sign bit, eight exponent bits, 23 fraction bits. -/
structure Binary32 where
  /-- the bits, the sign in the highest -/
  bits : UInt32
  deriving DecidableEq, Inhabited, Repr

/-- A double-precision number: one sign bit, eleven exponent bits, 52 fraction bits. -/
structure Binary64 where
  /-- the bits, the sign in the highest -/
  bits : UInt64
  deriving DecidableEq, Inhabited, Repr

namespace Binary64

/-- The sign bit. -/
def isNegative (x : Binary64) : Bool := 0x8000000000000000 ≤ x.bits.toNat

/-- The exponent bits. -/
def exponentField (x : Binary64) : Nat := x.bits.toNat / 0x10000000000000 % 0x800

/-- The fraction bits. -/
def fractionField (x : Binary64) : Nat := x.bits.toNat % 0x10000000000000

/-- The double with the given fields. -/
def ofFields (negative : Bool) (exponent fraction : Nat) : Binary64 :=
  ⟨UInt64.ofNat
    ((if negative then 0x8000000000000000 else 0) + exponent * 0x10000000000000 + fraction)⟩

/-- Neither infinite nor a NaN. -/
def isFinite (x : Binary64) : Bool := x.exponentField ≠ 2047

/-- Not a number. -/
def isNaN (x : Binary64) : Bool := x.exponentField = 2047 ∧ x.fractionField ≠ 0

/-- One of the two zeros. -/
def isZero (x : Binary64) : Bool := x.exponentField = 0 ∧ x.fractionField = 0

/-- All bits are clear.  Of the two zeros only the positive one is unset. -/
def isUnset (x : Binary64) : Bool := x.bits = 0

/-- **Equality as numbers.**  A NaN agrees with nothing; the two zeros agree; apart from that,
doubles agree only if their bits do. -/
def agrees (x y : Binary64) : Bool :=
  !x.isNaN && !y.isNaN && (x.bits == y.bits || x.isZero && y.isZero)

/-! ## The exact value of a finite double -/

/-- The whole number of units `2 ^ scale` in a finite double, its sign apart. -/
def significand (x : Binary64) : Nat :=
  if x.exponentField = 0 then x.fractionField else 0x10000000000000 + x.fractionField

/-- The exponent of the last bit of a finite double. -/
def scale (x : Binary64) : Int :=
  if x.exponentField = 0 then -1074 else (x.exponentField : Int) - 1075

/-- Whether the next double towards zero is only half as far away as the next one outwards: so
it is just above a power of two, the least normal double excepted. -/
def isNarrowBelow (x : Binary64) : Bool := x.fractionField = 0 ∧ 1 < x.exponentField

end Binary64

namespace Binary32

/-- The sign bit. -/
def isNegative (x : Binary32) : Bool := 0x80000000 ≤ x.bits.toNat

/-- The exponent bits. -/
def exponentField (x : Binary32) : Nat := x.bits.toNat / 0x800000 % 0x100

/-- The fraction bits. -/
def fractionField (x : Binary32) : Nat := x.bits.toNat % 0x800000

/-- All bits are clear.  Of the two zeros only the positive one is unset. -/
def isUnset (x : Binary32) : Bool := x.bits = 0

/-- **The double of the same value.**  Normal numbers, infinities and NaNs move their fields; a
subnormal single is normal as a double, so its highest bit becomes the hidden one. -/
def widen (x : Binary32) : Binary64 :=
  let fraction := x.fractionField
  match x.exponentField with
  | 0 =>
    if fraction = 0 then .ofFields x.isNegative 0 0
    else
      let top := fraction.log2
      .ofFields x.isNegative (top + 874) ((fraction - 1 <<< top) <<< (52 - top))
  | 255 => .ofFields x.isNegative 2047 (fraction <<< 29)
  | e => .ofFields x.isNegative (e + 896) (fraction <<< 29)

end Binary32

end RecordQuery
