import RecordQuery.Fault
import RecordQuery.Value.Text

/-!
# Conditions

A condition asks for an operator and a value under a key.

* `Condition.validate` — the operator must be legal for the category of the value.
* `Condition.checkPattern` — the text of a `$regex` condition must be a usable pattern, which the
  `PatternJudge` decides.
* `Condition.agrees` — equality of conditions, values compared as values.
-/

namespace RecordQuery

/-- One demand on the values under a key. -/
structure Condition where
  /-- the key -/
  key : String
  /-- how to compare -/
  operator : Operator
  /-- what to compare with -/
  value : Value
  deriving Inhabited

namespace Condition

/-- The category of the value. -/
def category (c : Condition) : Category := c.value.category

/-- The operator must be legal for the category of the value. -/
def validate [PatternJudge] (c : Condition) : Except Fault Unit :=
  if c.category.allows c.operator then .ok ()
  else .error (.unsupportedForCategory c.key c.operator c.category)

/-- The text of a `$regex` condition must be a usable pattern.  Other conditions pass. -/
def checkPattern [PatternJudge] (c : Condition) : Except Fault Unit :=
  match c.operator, c.value.asString? with
  | .regex, some pattern => (PatternJudge.judge pattern).mapError (.invalidPattern c.key)
  | _, _ => .ok ()

/-- Equality of conditions. -/
def agrees (c d : Condition) : Bool :=
  c.key == d.key && c.operator == d.operator && c.value.agrees d.value

/-- The diagnostic text. -/
def diagnostic (c : Condition) : String :=
  "FilterParam \x7b key: " ++ Text.quoteDiagnostic c.key ++ ", operator: " ++ c.operator.name
    ++ ", value: " ++ c.value.diagnostic ++ " \x7d"

theorem validate_eq_ok_iff [PatternJudge] {c : Condition} :
    c.validate = .ok () ↔ c.category.allows c.operator := by
  simp [validate]

end Condition

end RecordQuery
