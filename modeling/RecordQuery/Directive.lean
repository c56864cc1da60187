import RecordQuery.Declaration

/-!
# Directives

A field says in an attribute `#[filter(...)]` under which key its value goes into the query and by
which operator it is compared, or that it is skipped:

* `key = "..."` — the key, which must not be empty,
* `op = "..."` — the operator tag, which may be any text,
* `skip` — no part in the query.

`Directive.ofAttributes` reads the attributes of a field.  Clauses are read in order and the
first bad one is the fault; of repeated keys and of repeated tags the last counts.  An attribute
with another path says nothing about the query, and a second directive is a fault whatever it
says.
-/

namespace RecordQuery

/-- Why a declaration has no descriptor table. -/
inductive DirectiveFault
  /-- the declaration is not a structure with named fields -/
  | noNamedFields
  /-- a field carries two directives -/
  | duplicate
  /-- the directive has no body -/
  | missingArguments
  /-- the directive has an equality sign instead of parentheses -/
  | missingParentheses
  /-- the operand is no string literal -/
  | noStringLiteral
  /-- the key is empty -/
  | emptyKey
  /-- an assignment to something else than the key or the tag -/
  | unknownName
  /-- a clause of another form -/
  | unknownClause
  deriving DecidableEq, Repr

/-- The wording of a fault. -/
def DirectiveFault.message : DirectiveFault → String
  | noNamedFields => "FilterRecord can only be derived for structs with named fields"
  | duplicate => "duplicate #[filter] attribute; combine them into one"
  | missingArguments => "expected attribute arguments in parentheses: #[filter(...)]"
  | missingParentheses => "expected parentheses: #[filter(...)]"
  | noStringLiteral => "expected a string literal"
  | emptyKey => "key must not be empty"
  | unknownName => "unknown attribute. Expected: key or op"
  | unknownClause =>
    "unknown filter attribute. Expected: key = \"...\", op = \"...\", or skip"

/-- What the directive of a field says. -/
structure Directive where
  /-- the key, if there is one -/
  key : Option String
  /-- the operator tag, if there is one -/
  tag : Option String
  /-- whether the field is skipped -/
  skip : Bool
  deriving DecidableEq, Inhabited, Repr

namespace Directive

/-- The path of the attributes that are directives. -/
def path : String := "filter"

/-- The directive that says nothing. -/
def blank : Directive := ⟨none, none, false⟩

/-- Takes up one clause. -/
def read (a : Directive) : Clause → Except DirectiveFault Directive
  | .word "skip" => .ok { a with skip := true }
  | .assignment _ (.expression _) => .error .noStringLiteral
  | .assignment "key" (.text s) =>
    if s.isEmpty then .error .emptyKey else .ok { a with key := some s }
  | .assignment "op" (.text s) => .ok { a with tag := some s }
  | .assignment _ (.text _) => .error .unknownName
  | .word _ | .call _ _ => .error .unknownClause

/-- Reads the body of a directive.  A comma after the last clause says nothing. -/
def ofBody : AttributeBody → Except DirectiveFault Directive
  | .bare => .error .missingArguments
  | .assigned => .error .missingParentheses
  | .arguments args => args.clauses.foldlM read blank

/-- Reads attributes behind those from which `found` was read. -/
def ofAttributesAfter (found : Option Directive) :
    List Attribute → Except DirectiveFault (Option Directive)
  | [] => .ok found
  | a :: rest =>
    if a.path = path then
      match found with
      | some _ => .error .duplicate
      | none => do ofAttributesAfter (some (← ofBody a.body)) rest
    else ofAttributesAfter found rest

/-- **The directive of a field**, if its attributes contain one. -/
def ofAttributes (attributes : List Attribute) : Except DirectiveFault (Option Directive) :=
  ofAttributesAfter none attributes

end Directive

end RecordQuery
