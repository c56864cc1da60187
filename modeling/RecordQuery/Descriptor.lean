import RecordQuery.Field
import RecordQuery.Value.Text

/-!
# Descriptors

A record is compiled from the list of its descriptors, one per field, in declaration order.  A
descriptor holds the name of the field, the key and the operator tag declared for it, and the
field's content.  Nothing in it has been validated; in particular the tag may be any text.
-/

namespace RecordQuery

/-- A field of a record with what is declared for it. -/
structure Descriptor where
  /-- the name of the field -/
  name : String
  /-- the key under which the value goes -/
  key : String
  /-- the declared operator tag -/
  tag : String
  /-- the content of the field -/
  field : Field
  deriving Inhabited

/-- The diagnostic text.  It shows the value even of an unset field. -/
def Descriptor.diagnostic (d : Descriptor) : String :=
  "FieldDescriptor \x7b name: " ++ Text.quoteDiagnostic d.name ++ ", key: "
    ++ Text.quoteDiagnostic d.key ++ ", operator: " ++ Text.quoteDiagnostic d.tag ++ ", value: "
    ++ d.field.value.diagnostic ++ " \x7d"

end RecordQuery
