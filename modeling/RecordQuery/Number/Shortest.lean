/-!
# Shortest decimals

A floating-point number stands for all reals that round to it.  Its usual decimal text has the
fewest digits with which some decimal falls among these reals, and among the decimals of that
length the one nearest to the number itself.

The reals that round to a number form an interval, given here over a common denominator
(`RoundingInterval`).  For one, two, three … digits, `RoundingInterval.shortest` tries the two
neighbours of the number on the decimal grid of that length; the first grid with a neighbour
inside the interval wins.  If a point of a grid lies in the interval at all, so does one of these
two, hence no shorter decimal is missed.  All of it is exact arithmetic on natural numbers.

* `RoundingInterval.ofDyadic` — the interval of `significand * 2 ^ scale`.
* `Decimal` — `digits * 10 ^ exponent`.
* `RoundingInterval.shortest` — the shortest decimal, with a rule for ties.
-/

namespace RecordQuery

/-- What happens when the two decimals of the right length are equally near. -/
inductive Tie
  /-- the one whose last digit is even -/
  | toEven
  /-- the larger one -/
  | upward
  deriving DecidableEq, Repr

/-- The decimal number `digits * 10 ^ exponent`. -/
structure Decimal where
  /-- all digits, read as one number -/
  digits : Nat
  /-- the power of ten of the last digit -/
  exponent : Int
  deriving DecidableEq, Repr

/-- The reals from `low / unit` to `high / unit`, which round to `value / unit`. -/
structure RoundingInterval where
  /-- numerator of the lower end -/
  low : Nat
  /-- numerator of the number itself -/
  value : Nat
  /-- numerator of the upper end -/
  high : Nat
  /-- the common denominator -/
  unit : Nat
  /-- whether the ends belong to it -/
  closed : Bool

namespace RoundingInterval

/-- The reals that round to `significand * 2 ^ scale`: up to half a step on either side, and a
quarter of a step below if the lower neighbour is `narrow`.  The ends are halfway between two
floating-point numbers and round to the one with the even significand. -/
def ofDyadic (significand : Nat) (scale : Int) (narrow : Bool) : RoundingInterval :=
  let up := (scale - 2).toNat
  { low := (4 * significand - if narrow then 1 else 2) <<< up
    value := (4 * significand) <<< up
    high := (4 * significand + 2) <<< up
    unit := 1 <<< (2 - scale).toNat
    closed := significand % 2 = 0 }

/-- How many decimal digits a number has. -/
def digitCount (n : Nat) : Nat := (Nat.toDigits 10 n).length

/-- The power of ten of the first digit of `value / unit`. -/
def leadingExponent (r : RoundingInterval) : Int :=
  if r.unit ≤ r.value then (digitCount (r.value / r.unit) : Int) - 1
  else -(digitCount ((r.unit - 1) / r.value) : Int)

/-- The same interval measured in units of `10 ^ exponent`. -/
def scaleBy (r : RoundingInterval) (exponent : Int) : RoundingInterval :=
  let shrink := Nat.pow 10 exponent.toNat
  let grow := Nat.pow 10 (-exponent).toNat
  { r with low := r.low * grow, value := r.value * grow, high := r.high * grow
           unit := r.unit * shrink }

/-- Whether a whole number of units lies in the interval. -/
def contains (r : RoundingInterval) (n : Nat) : Bool :=
  if r.closed then r.low ≤ n * r.unit && n * r.unit ≤ r.high
  else r.low < n * r.unit && n * r.unit < r.high

/-- The whole number in the interval that is nearest to its value, if one of the value's two
neighbours lies in it. -/
def nearest (r : RoundingInterval) (tie : Tie) : Option Nat :=
  let below := r.value / r.unit
  let above := below + 1
  match r.contains below, r.contains above with
  | false, false => none
  | true, false => some below
  | false, true => some above
  | true, true =>
    let down := r.value - below * r.unit
    let up := above * r.unit - r.value
    if down < up then some below
    else if up < down then some above
    else match tie with
      | .toEven => some (if below % 2 = 0 then below else above)
      | .upward => some above

/-- **The shortest decimal** in the interval, and of those of its length the nearest.  Seventeen
digits always suffice for a double. -/
def shortest (r : RoundingInterval) (tie : Tie) : Decimal :=
  let lead := r.leadingExponent
  let attempt (n : Nat) : Option Decimal :=
    let exponent := lead - (n : Int)
    (r.scaleBy exponent).nearest tie |>.map fun digits =>
      if digits = Nat.pow 10 (n + 1) then ⟨1, lead + 1⟩ else ⟨digits, exponent⟩
  ((List.range 17).findSome? attempt).getD ⟨0, 0⟩

end RoundingInterval

end RecordQuery
