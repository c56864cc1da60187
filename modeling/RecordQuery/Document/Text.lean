import RecordQuery.Document
import RecordQuery.Value.Text

/-!
# The texts of a document

A document has two JSON texts, which differ in the order of the operators under a key.

* `Document.render` — written straight from the document, operators in the operator order.
* `Document.toJson` — the document as a JSON tree.  In such a tree the members of an object are
  in the byte order of their names, so the operators are in the order of their *tags*: `$gte` comes
  before `$lt` there, and `$in` before both `$lt` and `$regex`.

A datum need not have a tree, so a document has a datum (`Document.datum`), perhaps a tree
(`Document.toJson?`) and null in place of the tree that it has not.
-/

namespace RecordQuery

/-- **The JSON text of the operators of one key**, in the operator order. -/
def OperatorMap.render (m : OperatorMap) : String :=
  Json.brace (m.entries.map fun e => Json.member e.1.tag e.2.render)

/-- The name of an operator among data. -/
def Operator.datum (op : Operator) : Datum := .text op.tag

/-- The operators of one key as a datum. -/
def OperatorMap.datum (m : OperatorMap) : Datum :=
  .mapping (m.entries.map fun e => (e.1.datum, e.2.datum))

/-- **The JSON tree of the operators of one key**, in the byte order of their tags. -/
def OperatorMap.toJson (m : OperatorMap) : Json :=
  .ofMembers (m.entries.map fun e => (e.1.tag, e.2.toJson))

namespace Document

/-- **The JSON text** of the document, written straight from it. -/
def render (d : Document) : String :=
  Json.brace (d.toList.map fun e => Json.member e.1 (OperatorMap.render e.2))

/-- The document as a datum. -/
def datum (d : Document) : Datum :=
  .mapping (d.entries.entries.map fun e => (.text e.1, OperatorMap.datum e.2))

/-- The JSON tree of the document, if it has one. -/
def toJson? (d : Document) : Except TreeFault Json := d.datum.toJson?

/-- **The JSON tree** of the document, or null if it has none. -/
def toJson (d : Document) : Json :=
  match d.toJson? with
  | .ok j => j
  | .error _ => .null

end Document

end RecordQuery
