import RecordQuery.Json
import RecordQuery.OrderedMap

/-!
# Data

What is handed to a writer of trees: values of a few kinds, lists of them and mappings between them.

In a datum anything can stand for a name of a mapping, in a JSON tree only a text can.  So a datum
may have no tree.

* `Datum` — the type.
* `Datum.name?` — the name that a datum stands for.
* `Datum.toJson?` — the tree.

`Datum.toJson?_sequence` and `Datum.toJson?_mapping` say when a list of things has a tree.
-/

namespace RecordQuery

/-- An object with its members in the byte order of their names.  Of several members with one name
the last counts. -/
def Json.ofMembers (members : List (String × Json)) : Json :=
  .object (OrderedMap.ofList members).entries

/-- What can be written. -/
inductive Datum
  /-- a truth value -/
  | boolean (b : Bool)
  /-- a whole number with a sign -/
  | signed (n : Int64)
  /-- a whole number without a sign -/
  | unsigned (n : UInt64)
  /-- a floating-point number -/
  | float (x : Binary64)
  /-- a text -/
  | text (s : String)
  /-- a list of data -/
  | sequence (items : List Datum)
  /-- a list of data under names -/
  | mapping (entries : List (Datum × Datum))
  deriving Inhabited

/-- Why there is no tree. -/
inductive TreeFault
  /-- a name is an infinity or a NaN -/
  | nameNotFinite
  /-- a name is a list or a mapping -/
  | nameNotText
  deriving DecidableEq, Repr

namespace Datum

/-- **The name that a datum stands for.**  Numbers and truth values are written out. -/
def name? : Datum → Except TreeFault String
  | boolean b => .ok (toString b)
  | signed n => .ok (toString n.toInt)
  | unsigned n => .ok (toString n.toNat)
  | float x => if x.isFinite then .ok (Json.layout.render x) else .error .nameNotFinite
  | text s => .ok s
  | sequence _ | mapping _ => .error .nameNotText

mutual

/-- **The JSON tree** of a datum.  A floating-point number that is no number becomes null. -/
def toJson? : Datum → Except TreeFault Json
  | boolean b => .ok (.boolean b)
  | signed n => .ok (.integer n.toInt)
  | unsigned n => .ok (.integer n.toNat)
  | float x => .ok (if x.isFinite then .float x else .null)
  | text s => .ok (.string s)
  | sequence items => return .array (← itemsToJson? items)
  | mapping entries => return .ofMembers (← entriesToJson? entries)

/-- The JSON trees of the items of a list. -/
def itemsToJson? : List Datum → Except TreeFault (List Json)
  | [] => return []
  | x :: xs => return (← x.toJson?) :: (← itemsToJson? xs)

/-- The members that the entries of a mapping become. -/
def entriesToJson? : List (Datum × Datum) → Except TreeFault (List (String × Json))
  | [] => return []
  | (name, x) :: es => return (← name.name?, ← x.toJson?) :: (← entriesToJson? es)

end

section

variable {α : Type} {xs : List α} {datum : α → Datum} {tree : α → Json}

theorem toJson?_sequence (h : ∀ x ∈ xs, (datum x).toJson? = .ok (tree x)) :
    (sequence (xs.map datum)).toJson? = .ok (.array (xs.map tree)) := by
  have hitems : itemsToJson? (xs.map datum) = .ok (xs.map tree) := by
    induction xs with
    | nil => rfl
    | cons x xs ih =>
        obtain ⟨hx, hxs⟩ := List.forall_mem_cons.mp h
        rw [List.map_cons, itemsToJson?, hx, ih hxs]
        rfl
  rw [toJson?, hitems]
  rfl

/-- **A mapping whose names are texts has a tree** if what is under them has. -/
theorem toJson?_mapping (name : α → String) (h : ∀ x ∈ xs, (datum x).toJson? = .ok (tree x)) :
    (mapping (xs.map fun x => (text (name x), datum x))).toJson?
      = .ok (.ofMembers (xs.map fun x => (name x, tree x))) := by
  have hentries : entriesToJson? (xs.map fun x => (text (name x), datum x))
      = .ok (xs.map fun x => (name x, tree x)) := by
    induction xs with
    | nil => rfl
    | cons x xs ih =>
        obtain ⟨hx, hxs⟩ := List.forall_mem_cons.mp h
        rw [List.map_cons, entriesToJson?, hx, ih hxs]
        rfl
  rw [toJson?, hentries]
  rfl

end

/-- A list is no name. -/
example : (mapping [(text "a", float ⟨0⟩), (sequence [], text "b")]).toJson?
    = .error .nameNotText := rfl

end Datum

end RecordQuery
