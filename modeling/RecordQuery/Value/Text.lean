import RecordQuery.Datum
import RecordQuery.Value

/-!
# The texts of a value

A value has a JSON text, in which nothing names its constructor, and a diagnostic text, in which
everything does.

* `Value.render` — the JSON text, written straight from the value.
* `Value.datum` — what is handed to the writer of trees.
* `Value.toJson` — the value as a JSON tree, which it always has (`Value.toJson?_datum`).
* `Value.diagnostic` — the text for people.

The JSON text says nothing about signedness, and an infinity or a NaN becomes `null`.
-/

namespace RecordQuery.Value

/-! ## JSON -/

mutual

/-- **The JSON text**, written straight from the value. -/
def render : Value → String
  | string s => Text.quoteJson s
  | int n => toString n.toInt
  | uint n => toString n.toNat
  | float x => Json.renderFloat x
  | boolean b => toString b
  | sequence items => Json.bracket (renderAll items)

/-- The JSON texts of the items of a sequence. -/
def renderAll : List Value → List String
  | [] => []
  | v :: vs => v.render :: renderAll vs

end

theorem renderAll_eq_map (items : List Value) : renderAll items = items.map render := by
  induction items with
  | nil => rfl
  | cons v vs ih => simp [renderAll, ih]

mutual

/-- **The JSON tree** of the value.  A floating-point number that is no number becomes null. -/
def toJson : Value → Json
  | string s => .string s
  | int n => .integer n.toInt
  | uint n => .integer n.toNat
  | float x => if x.isFinite then .float x else .null
  | boolean b => .boolean b
  | sequence items => .array (toJsonAll items)

/-- The JSON trees of the items of a sequence. -/
def toJsonAll : List Value → List Json
  | [] => []
  | v :: vs => v.toJson :: toJsonAll vs

end

theorem toJsonAll_eq_map (items : List Value) : toJsonAll items = items.map toJson := by
  induction items with
  | nil => rfl
  | cons v vs ih => simp [toJsonAll, ih]

mutual

/-- **The value as a datum.**  Nothing in it names the constructor. -/
def datum : Value → Datum
  | string s => .text s
  | int n => .signed n
  | uint n => .unsigned n
  | float x => .float x
  | boolean b => .boolean b
  | sequence items => .sequence (datumAll items)

/-- The items of a sequence as data. -/
def datumAll : List Value → List Datum
  | [] => []
  | v :: vs => v.datum :: datumAll vs

end

theorem datumAll_eq_map (items : List Value) : datumAll items = items.map datum := by
  induction items with
  | nil => rfl
  | cons v vs ih => simp [datumAll, ih]

/-! ## Diagnostic text -/

/-- **Doubles in diagnostic text.**  Positional from `0.0001` up to sixteen digits before the
point, no sign before a positive exponent, and ties upwards. -/
def diagnosticLayout : Layout where
  least := -4
  greatest := 15
  plus := ""
  tie := .upward

/-- The diagnostic text of a double. -/
def diagnosticFloat (x : Binary64) : String :=
  if x.isFinite then diagnosticLayout.render x
  else if x.isNaN then "NaN"
  else if x.isNegative then "-inf"
  else "inf"

mutual

/-- **The diagnostic text**: the constructor with its content in parentheses. -/
def diagnostic : Value → String
  | string s => "String(" ++ Text.quoteDiagnostic s ++ ")"
  | int n => "Int(" ++ toString n.toInt ++ ")"
  | uint n => "UInt(" ++ toString n.toNat ++ ")"
  | float x => "Float(" ++ diagnosticFloat x ++ ")"
  | boolean b => "Bool(" ++ toString b ++ ")"
  | sequence items => "Sequence([" ++ ", ".intercalate (diagnosticAll items) ++ "])"

/-- The diagnostic texts of the items of a sequence. -/
def diagnosticAll : List Value → List String
  | [] => []
  | v :: vs => v.diagnostic :: diagnosticAll vs

end

end RecordQuery.Value
