import RecordQuery.Category
import RecordQuery.Number.Binary

/-!
# Values

What a condition compares with.  A value is a text, a whole number, a floating-point number, a
truth value or a list of values of any kinds.

Signed and unsigned whole numbers are different values even where the numbers are equal: `int 1`
and `uint 1` are written alike and fall into the same category, yet they do not agree.

* `Value` — the type.
* `Value.category` — the kind on which the legality of operators depends.  It looks at the
  outermost constructor only, so the items of a sequence are never classified.
* `Value.agrees` — equality of values, floating-point numbers compared as numbers.
-/

namespace RecordQuery

/-- The value of a condition. -/
inductive Value
  /-- a text -/
  | string (s : String)
  /-- a whole number with a sign -/
  | int (n : Int64)
  /-- a whole number without a sign -/
  | uint (n : UInt64)
  /-- a floating-point number -/
  | float (x : Binary64)
  /-- a truth value -/
  | boolean (b : Bool)
  /-- a list of values -/
  | sequence (items : List Value)
  deriving Inhabited

namespace Value

/-- The kind of the value. -/
def category : Value → Category
  | string _ => .string
  | int _ | uint _ => .integer
  | boolean _ => .boolean
  | sequence _ => .sequence
  | float _ => .other

/-- The text, if the value is one. -/
def asString? : Value → Option String
  | string s => some s
  | _ => none

/-- Texts are the values of category `string`. -/
theorem category_eq_string_iff {v : Value} : v.category = .string ↔ ∃ s, v = string s := by
  cases v <;> simp [category]

mutual

/-- **Equality of values.**  Values of different constructors never agree; floating-point numbers
agree as numbers, so a value that contains a NaN does not even agree with itself. -/
def agrees : Value → Value → Bool
  | string s, string t => s == t
  | int m, int n => m == n
  | uint m, uint n => m == n
  | float x, float y => x.agrees y
  | boolean a, boolean b => a == b
  | sequence xs, sequence ys => allAgree xs ys
  | _, _ => false

/-- Lists of the same length agree item by item. -/
def allAgree : List Value → List Value → Bool
  | [], [] => true
  | x :: xs, y :: ys => x.agrees y && allAgree xs ys
  | _, _ => false

end

end Value

end RecordQuery
