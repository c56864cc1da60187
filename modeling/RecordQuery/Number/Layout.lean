import RecordQuery.Number.Binary
import RecordQuery.Number.Shortest

/-!
# Layouts of decimal numbers

A `Layout` holds the decisions that a text format takes about floating-point numbers once their
shortest digits are known: where positional notation ends, how an exponent is written and which
way ties go.  `Layout.render` writes a finite double accordingly.

In every layout positional notation has a point with at least one digit on either side of it, an
exponent has neither padding nor a leading point, and the sign of a zero is kept.
-/

namespace RecordQuery

/-- The decisions of a text format about floating-point numbers. -/
structure Layout where
  /-- the least power of ten of a first digit that is still written positionally -/
  least : Int
  /-- the greatest one -/
  greatest : Int
  /-- what is written before an exponent that is not negative -/
  plus : String
  /-- which of two equally near decimals is written -/
  tie : Tie

namespace Layout

/-- Positional notation: the digits around a point, filled up with zeros where they do not
reach it. -/
def positional (d : Decimal) : String :=
  let ds := Nat.toDigits 10 d.digits
  let whole := (ds.length : Int) + d.exponent
  String.ofList <|
    if d.exponent ≥ 0 then ds ++ List.replicate d.exponent.toNat '0' ++ ['.', '0']
    else if whole > 0 then ds.take whole.toNat ++ '.' :: ds.drop whole.toNat
    else '0' :: '.' :: List.replicate (-whole).toNat '0' ++ ds

/-- Scientific notation: one digit, the others after a point if there are any, the exponent. -/
def scientific (plus : String) (d : Decimal) : String :=
  let ds := Nat.toDigits 10 d.digits
  let lead := (ds.length : Int) - 1 + d.exponent
  let mantissa := ds.take 1 ++ if ds.length = 1 then [] else '.' :: ds.drop 1
  let sign := if lead < 0 then "-" else plus
  String.ofList mantissa ++ "e" ++ sign ++ toString lead.natAbs

/-- A positive decimal in the notation that the layout prescribes for its size. -/
def ofDecimal (l : Layout) (d : Decimal) : String :=
  let lead := (RoundingInterval.digitCount d.digits : Int) - 1 + d.exponent
  if l.least ≤ lead ∧ lead ≤ l.greatest then positional d else scientific l.plus d

/-- **A finite double** in its shortest digits. -/
def render (l : Layout) (x : Binary64) : String :=
  let magnitude :=
    if x.isZero then "0.0"
    else
      l.ofDecimal ((RoundingInterval.ofDyadic x.significand x.scale x.isNarrowBelow).shortest l.tie)
  (if x.isNegative then "-" else "") ++ magnitude

end Layout

end RecordQuery
