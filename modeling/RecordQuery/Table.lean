import RecordQuery.Directive
import RecordQuery.Descriptor

/-!
# Descriptor tables

From a declaration with annotated fields follows a table with a row for every field that is not
skipped.  The table does not depend on any values; together with the contents of the fields it
gives the descriptors of a record.

* `Declaration.table` — the table, or the first fault.  The kind of the declaration is judged
  before any attribute, then the fields in order.
* `Row.describe`, `Row.describeAll` — the descriptors of an instance.

A field without directive has a row like any other: its name is the key and its tag is empty.
A skipped field is still checked, so a fault in its directive counts.
-/

namespace RecordQuery

/-- A row of a descriptor table: a field with its key and its operator tag. -/
structure Row where
  /-- the name of the field -/
  name : String
  /-- the key -/
  key : String
  /-- the operator tag, empty if none is declared -/
  tag : String
  /-- the field that is read -/
  source : String
  deriving DecidableEq, Repr

/-- The row of a field, none if it is skipped. -/
def Member.row? (m : Member) : Except DirectiveFault (Option Row) := do
  let a := (← Directive.ofAttributes m.attributes).getD .blank
  return if a.skip then none else some ⟨m.name, a.key.getD m.name, a.tag.getD "", m.name⟩

/-- **The descriptor table** of a declaration. -/
def Declaration.table (d : Declaration) : Except DirectiveFault (List Row) :=
  match d.shape with
  | .namedFields => return (← d.members.mapM Member.row?).filterMap id
  | .tuple | .unit | .enumeration | .union => .error .noNamedFields

namespace Row

/-- The descriptor of a row in the instance that has the given contents. -/
def describe (contents : String → Field) (r : Row) : Descriptor :=
  ⟨r.name, r.key, r.tag, contents r.source⟩

/-- The descriptors of an instance. -/
def describeAll (contents : String → Field) (rows : List Row) : List Descriptor :=
  rows.map (describe contents)

end Row

end RecordQuery
