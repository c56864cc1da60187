import RecordQuery.Field

/-!
# Plain contents

The contents that are values already: scalars, borrowed texts, and lists of such contents nested
to any depth.  They reach a query on two ways, directly as the value of a condition and as the
content of a record field.

* `Plain.toValue` — the direct way.
* `Plain.toField` — the way through a field.
-/

namespace RecordQuery

/-- A content that is a value already. -/
inductive Plain
  /-- a typed leaf -/
  | scalar (s : Scalar)
  /-- a text that is owned by somebody else -/
  | borrowed (s : String)
  /-- a growable sequence -/
  | list (items : List Plain)
  deriving Inhabited

namespace Plain

mutual

/-- **The value itself.** -/
def toValue : Plain → Value
  | scalar s => s.toValue
  | borrowed s => .string s
  | list items => .sequence (toValues items)

/-- The values of the items of a list. -/
def toValues : List Plain → List Value
  | [] => []
  | p :: ps => p.toValue :: toValues ps

end

mutual

/-- **The field** that holds the content.  A borrowed text is a text behind a reference. -/
def toField : Plain → Field
  | scalar s => .scalar s
  | borrowed s => .reference (.scalar (.string s))
  | list items => .list (toFields items)

/-- The fields that hold the items of a list. -/
def toFields : List Plain → List Field
  | [] => []
  | p :: ps => p.toField :: toFields ps

end

end Plain

end RecordQuery
