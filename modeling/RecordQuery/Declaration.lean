/-!
# Declarations

The declaration of a record type, as far as a query depends on it: what kind of declaration it
is, and which attributes its fields carry.

An attribute is a path with an optional body, as in `#[path(clause, clause)]`.  Paths are compared
as texts, so a path of several segments is never equal to a single name, and a raw identifier
keeps its mark.

* `Declaration`, `Member`, `Attribute`, `Arguments`, `Clause` — the types, from the outside to the
  inside.
-/

namespace RecordQuery

/-- What stands to the right of an equality sign. -/
inductive Operand
  /-- a string literal -/
  | text (s : String)
  /-- any other expression -/
  | expression (source : String)
  deriving DecidableEq, Repr

/-- One of the comma-separated parts of an attribute's body. -/
inductive Clause
  /-- a path alone -/
  | word (path : String)
  /-- a path, an equality sign and an operand -/
  | assignment (path : String) (operand : Operand)
  /-- a path and further parts in parentheses -/
  | call (path arguments : String)
  deriving DecidableEq, Repr

/-- Clauses in parentheses, with or without a comma behind the last one.  There is no comma without
a clause. -/
structure Arguments where
  /-- the clauses, in order -/
  clauses : List Clause
  /-- whether there is a comma behind the last clause -/
  trailingComma : Bool
  comma_behind_clause : trailingComma = true → clauses ≠ []
  deriving DecidableEq, Repr

/-- What follows the path of an attribute. -/
inductive AttributeBody
  /-- nothing -/
  | bare
  /-- an equality sign and a text -/
  | assigned
  /-- clauses in parentheses -/
  | arguments (args : Arguments)
  deriving DecidableEq, Repr

/-- An attribute of a field. -/
structure Attribute where
  /-- the path -/
  path : String
  /-- what follows it -/
  body : AttributeBody
  deriving DecidableEq, Repr

/-- A field of a declaration. -/
structure Member where
  /-- the name, with its mark if it is a raw identifier -/
  name : String
  /-- the attributes, in order -/
  attributes : List Attribute
  deriving DecidableEq, Repr

/-- The kind of a declaration. -/
inductive Shape
  /-- a structure whose fields have names -/
  | namedFields
  /-- a structure whose fields have positions -/
  | tuple
  /-- a structure without fields -/
  | unit
  /-- a choice of variants -/
  | enumeration
  /-- overlapping fields -/
  | union
  deriving DecidableEq, Repr

/-- The declaration of a type. -/
structure Declaration where
  /-- its kind -/
  shape : Shape
  /-- its fields, or its variants if it is an enumeration -/
  members : List Member
  deriving DecidableEq, Repr

end RecordQuery
