import RecordQuery.Value

/-!
# Scalars

The typed leaves of a record: texts, whole numbers of a fixed width, floating-point numbers of
either precision and truth values.  Each has a value, in which the width is forgotten and the
signedness is kept, and a state in which it counts as unset.

* `Scalar` — the type; a whole number is as many bits as its width says.
* `Scalar.toValue` — its value, by conversion.
* `Scalar.fieldValue` — the value that a field with this leaf contributes.  Texts and truth values
  have a conversion of their own there, and `Scalar.fieldValue_eq_toValue` says that it is the same.
* `Scalar.isUnset` — the empty text, the number zero, `false`.  A floating-point number is unset
  only if all its bits are clear, in its own precision.
-/

namespace RecordQuery

/-- The width of a whole number. -/
inductive Width
  | w8
  | w16
  | w32
  | w64
  deriving DecidableEq, Repr

/-- The number of bits. -/
def Width.bits : Width → Nat
  | w8 => 8
  | w16 => 16
  | w32 => 32
  | w64 => 64

/-- A typed leaf of a record. -/
inductive Scalar
  /-- a text -/
  | string (s : String)
  /-- a truth value -/
  | boolean (b : Bool)
  /-- a whole number with a sign, in two's complement -/
  | signed (width : Width) (n : BitVec width.bits)
  /-- a whole number without a sign -/
  | unsigned (width : Width) (n : BitVec width.bits)
  /-- a floating-point number of single precision -/
  | single (x : Binary32)
  /-- a floating-point number of double precision -/
  | double (x : Binary64)
  deriving Inhabited

namespace Scalar

/-- **The value.**  Whole numbers become 64 bits wide, floating-point numbers doubles; no number
changes by that. -/
def toValue : Scalar → Value
  | string s => .string s
  | boolean b => .boolean b
  | signed _ n => .int (.ofBitVec (n.signExtend 64))
  | unsigned _ n => .uint (.ofBitVec (n.setWidth 64))
  | single x => .float x.widen
  | double x => .float x

/-- **The value that a field contributes.**  Numbers are converted as ever. -/
def fieldValue : Scalar → Value
  | string s => .string s
  | boolean b => .boolean b
  | n => n.toValue

theorem fieldValue_eq_toValue (s : Scalar) : s.fieldValue = s.toValue := by cases s <;> rfl

/-- Whether the leaf holds what it holds before anything is put into it. -/
def isUnset : Scalar → Bool
  | string s => s.isEmpty
  | boolean b => !b
  | signed _ n => n == 0
  | unsigned _ n => n == 0
  | single x => x.isUnset
  | double x => x.isUnset

end Scalar

end RecordQuery
