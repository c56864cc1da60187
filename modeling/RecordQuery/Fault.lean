import RecordQuery.Category
import RecordQuery.Pattern.Judge

/-!
# Faults

Why a record cannot be compiled, or a condition cannot be accepted.  Each fault names the key of
the condition, and one about a pattern says what the judge of patterns has against it.
`Fault.message` words it.
-/

namespace RecordQuery

variable [PatternJudge]

/-- The cause of a failed compilation. -/
inductive Fault
  /-- the declared tag belongs to no operator -/
  | unsupportedTag (tag key : String)
  /-- the operator is not legal for values of this category -/
  | unsupportedForCategory (key : String) (operator : Operator) (category : Category)
  /-- the text of a `$regex` condition is no usable pattern -/
  | invalidPattern (key : String) (cause : PatternJudge.Cause)

/-- The wording of a fault.  Tags and keys are put in as they stand, and so is what the judge says
about a pattern. -/
def Fault.message : Fault → String
  | unsupportedTag tag key =>
    "invalid/unsupported operator tag '" ++ tag ++ "' for field '" ++ key ++ "'"
  | unsupportedForCategory key operator category =>
    "operator '" ++ operator.tag ++ "' is not valid for " ++ category.name ++ " values (field '"
      ++ key ++ "')"
  | invalidPattern key cause =>
    "invalid regex pattern for field '" ++ key ++ "': " ++ PatternJudge.explain cause

end RecordQuery
