import RecordQuery.OrderedMap
import RecordQuery.Value

/-!
# Query documents

A query document maps keys to operators and operators to values.  Keys ascend in the byte order
of their text, which is also the order of its code points; under each key the operators ascend in
the operator order.

* `Document.insert` — puts a value under a key and an operator.  Other operators of the key and
  other keys stay as they are.
* `Document.get?`, `Document.value?`, `Document.contains` — look-up.
* `Document.keys`, `Document.size`, `Document.toList` — enumeration.
* `Document.borrowingLoop`, `Document.consumingLoop` — the same in loops.
* `Document.agrees` — equality, values compared as values.
-/

namespace RecordQuery

/-- The values under one key, by operator. -/
abbrev OperatorMap := OrderedMap Operator Value

/-- A query: for every key the operators and values that the stored record has to meet. -/
structure Document where
  /-- the operators of every key -/
  entries : OrderedMap String OperatorMap
  deriving Inhabited

namespace Document

/-- The document without demands. -/
def empty : Document := ⟨.empty⟩

/-- The operators under a key. -/
def get? (d : Document) (key : String) : Option OperatorMap := d.entries.find? key

/-- The value under a key and an operator. -/
def value? (d : Document) (key : String) (op : Operator) : Option Value :=
  (d.get? key).bind (·.find? op)

/-- Whether there is any operator under a key. -/
def contains (d : Document) (key : String) : Bool := d.entries.contains key

/-- The number of keys. -/
def size (d : Document) : Nat := d.entries.size

/-- Whether there is no key. -/
def isEmpty (d : Document) : Bool := d.entries.isEmpty

/-- The keys, ascending. -/
def keys (d : Document) : List String := d.entries.keys

/-- The keys with their operators, ascending. -/
def toList (d : Document) : List (String × OperatorMap) := d.entries.entries

/-- What a loop over the document yields if the document is kept. -/
def borrowingLoop (d : Document) : List (String × OperatorMap) := d.entries.entries

/-- What a loop over the document yields if the document is given up. -/
def consumingLoop (d : Document) : List (String × OperatorMap) := d.entries.entries

/-- **Puts a value under a key and an operator**, in place of the value that was there. -/
def insert (d : Document) (key : String) (op : Operator) (v : Value) : Document :=
  ⟨d.entries.insert key (((d.get? key).getD .empty).insert op v)⟩

/-- **Equality of documents**: the same keys, under each the same operators, with values that
agree. -/
def agrees (d e : Document) : Bool :=
  d.entries.agreesBy (fun m n => m.agreesBy Value.agrees n) e.entries

/-! ## Look-up after insertion -/

@[simp] theorem value?_empty (key : String) (op : Operator) : empty.value? key op = none := rfl

/-- What was inserted is found. -/
@[simp] theorem value?_insert_self (d : Document) (key : String) (op : Operator) (v : Value) :
    (d.insert key op v).value? key op = some v := by
  simp [value?, get?, insert]

/-- Insertion leaves every other pair of key and operator alone. -/
theorem value?_insert_of_ne (d : Document) {key k : String} {op o : Operator}
    (h : ¬(k = key ∧ o = op)) (v : Value) : (d.insert key op v).value? k o = d.value? k o := by
  by_cases hk : k = key
  · subst hk
    have ho : o ≠ op := fun e => h ⟨rfl, e⟩
    simp only [value?, get?, insert, OrderedMap.find?_insert_self, Option.bind_some,
      OrderedMap.find?_insert_of_ne _ ho]
    cases d.entries.find? k with
    | none => simp
    | some m => rfl
  · simp [value?, get?, insert, OrderedMap.find?_insert_of_ne _ hk]

end Document

end RecordQuery
