import RecordQuery.Number.Layout
import RecordQuery.Text.Quoted

/-!
# JSON

JSON trees and their compact text: no blanks, members in the order in which the tree has them.

* `Json` — the type.  Whole numbers are exact and of any size; other numbers are finite doubles.
* `Json.layout` — how JSON text writes a double.
* `Json.render` — the text of a tree.
* `Json.renderFloat` — the text of any double; one that is no number has no JSON text and becomes
  `null`.
-/

namespace RecordQuery

/-- A JSON tree. -/
inductive Json
  /-- the null value -/
  | null
  /-- a truth value -/
  | boolean (b : Bool)
  /-- a whole number -/
  | integer (n : Int)
  /-- a finite floating-point number -/
  | float (x : Binary64)
  /-- a string -/
  | string (s : String)
  /-- a list of trees -/
  | array (items : List Json)
  /-- a list of named trees -/
  | object (members : List (String × Json))
  deriving Inhabited

namespace Json

/-- **Doubles in JSON.**  Positional from `0.00001` up to sixteen digits before the point, an
explicit plus sign before a positive exponent, and ties to the even digit. -/
def layout : Layout where
  least := -5
  greatest := 15
  plus := "+"
  tie := .toEven

/-- The text of a double, `null` for an infinity or a NaN. -/
def renderFloat (x : Binary64) : String := if x.isFinite then layout.render x else "null"

/-- Items between brackets, with commas between them. -/
def bracket (items : List String) : String := "[" ++ ",".intercalate items ++ "]"

/-- Members between braces, with commas between them. -/
def brace (members : List String) : String := "\x7b" ++ ",".intercalate members ++ "\x7d"

/-- A name with its value. -/
def member (name value : String) : String := Text.quoteJson name ++ ":" ++ value

mutual

/-- **The compact text** of a tree. -/
def render : Json → String
  | null => "null"
  | boolean b => toString b
  | integer n => toString n
  | float x => renderFloat x
  | string s => Text.quoteJson s
  | array items => bracket (renderItems items)
  | object members => brace (renderMembers members)

/-- The texts of the items of an array. -/
def renderItems : List Json → List String
  | [] => []
  | j :: js => j.render :: renderItems js

/-- The texts of the members of an object. -/
def renderMembers : List (String × Json) → List String
  | [] => []
  | (name, j) :: ms => member name j.render :: renderMembers ms

end

theorem renderItems_eq_map (items : List Json) : renderItems items = items.map render := by
  induction items with
  | nil => rfl
  | cons j js ih => simp [renderItems, ih]

theorem renderMembers_eq_map (members : List (String × Json)) :
    renderMembers members = members.map fun m => member m.1 m.2.render := by
  induction members with
  | nil => rfl
  | cons m ms ih => simp [renderMembers, ih]

end Json

end RecordQuery
