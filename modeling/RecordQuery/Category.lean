import RecordQuery.Operator

/-!
# Categories of values

The store executes an operator only on values of a suitable kind.  `Category` is the coarse
classification of values on which that depends, and `Category.allows` is the **matrix** of legal
pairs:

| category | legal operators |
|---|---|
| string | `$eq`, `$regex`, `$in` |
| integer | `$eq`, `$gt`, `$lt`, `$gte`, `$lte`, `$in` |
| boolean | `$eq`, `$in` |
| sequence | `$in` |
| other | none |

Every category except `other` allows `$in`, and only `integer` allows the order comparisons
(`Category.allows_of_isRange`).  The table itself is `Category.legal`, and the matrix decides by it
(`Category.allows_iff_mem_legal`).
-/

namespace RecordQuery

/-- The coarse kind of a value, on which the legality of an operator depends. -/
inductive Category
  /-- text -/
  | string
  /-- whole numbers, signed or not, of any width -/
  | integer
  /-- truth values -/
  | boolean
  /-- lists of values -/
  | sequence
  /-- everything else, floating-point numbers among it -/
  | other
  deriving DecidableEq, Inhabited, Repr

namespace Category

/-- Every category. -/
def all : List Category := [string, integer, boolean, sequence, other]

/-- The word for the category in messages. -/
def name : Category → String
  | string => "string"
  | integer => "integer"
  | boolean => "boolean"
  | sequence => "sequence"
  | other => "other"

/-- The category of a name. -/
def ofName? (s : String) : Option Category := all.find? (·.name == s)

/-- **The matrix.**  Whether the operator may be applied to values of the category. -/
def allows : Category → Operator → Bool
  | string, op => op ∈ [.eq, .regex, .isIn]
  | integer, op => op.isRange || op ∈ [.eq, .isIn]
  | boolean, op => op ∈ [.eq, .isIn]
  | sequence, op => op = .isIn
  | other, _ => false

/-- **The table of legal operators**, as it stands above. -/
def legal : Category → List Operator
  | string => [.eq, .regex, .isIn]
  | integer => [.eq, .gt, .lt, .gte, .lte, .isIn]
  | boolean => [.eq, .isIn]
  | sequence => [.isIn]
  | other => []

/-- **The matrix is the table.** -/
theorem allows_iff_mem_legal {c : Category} {op : Operator} :
    c.allows op = true ↔ op ∈ c.legal := by
  cases c <;> cases op <;> decide

theorem mem_all (c : Category) : c ∈ all := by cases c <;> decide

/-- An order comparison is legal on integers and on nothing else. -/
theorem allows_of_isRange {op : Operator} (h : op.isRange) (c : Category) :
    c.allows op ↔ c = integer := by
  cases c <;> cases op <;> revert h <;> decide

/-- A pattern is legal on strings and on nothing else. -/
theorem allows_regex (c : Category) : c.allows .regex ↔ c = string := by
  cases c <;> decide

end Category

end RecordQuery
