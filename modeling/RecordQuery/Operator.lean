/-!
# Operators

A query compares the values stored under a key by one of seven operators.  Each operator has a
**tag**, the text by which records declare it and by which a finished query carries it.

* `Operator.tag` — the tag of an operator; `Operator.ofTag?` finds the operator of a tag.
* `Operator.rank` — the place of an operator in the operator order.  The conditions of one key are
  always listed in this order, which is not the byte order of the tags.
* `Operator.isRange` — the four order comparisons.
* `Operator.parse` — tag lookup with a cause of failure, `UnknownTag`.

The lookup is exact: no folding of case, no trimming, no tag without its dollar sign.
`Operator.ofTag?_eq_some_iff` states it as an equivalence, so a tag determines its operator and
the other way round.
-/

namespace RecordQuery

/-- A comparison between the stored value and the value of a condition. -/
inductive Operator
  /-- equal to the given value -/
  | eq
  /-- matched by the given pattern -/
  | regex
  /-- greater than the given value -/
  | gt
  /-- less than the given value -/
  | lt
  /-- greater than or equal to the given value -/
  | gte
  /-- less than or equal to the given value -/
  | lte
  /-- one of the given values -/
  | isIn
  deriving DecidableEq, Inhabited, Repr

namespace Operator

/-- Every operator, in the operator order. -/
def all : List Operator := [eq, regex, gt, lt, gte, lte, isIn]

/-- The tag that declares the operator in a record and carries it in a query. -/
def tag : Operator → String
  | eq => "$eq"
  | regex => "$regex"
  | gt => "$gt"
  | lt => "$lt"
  | gte => "$gte"
  | lte => "$lte"
  | isIn => "$in"

/-- The name of the operator in diagnostic text. -/
def name : Operator → String
  | eq => "Eq"
  | regex => "Regex"
  | gt => "Gt"
  | lt => "Lt"
  | gte => "Gte"
  | lte => "Lte"
  | isIn => "In"

/-- The operator that a tag declares, if it declares one. -/
def ofTag? (t : String) : Option Operator := all.find? (·.tag == t)

/-- **Order comparisons.**  These four need a value with an order that the store understands. -/
def isRange : Operator → Bool
  | gt | gte | lt | lte => true
  | eq | regex | isIn => false

/-! ## The operator order -/

/-- The place of an operator in the operator order. -/
def rank : Operator → Nat
  | eq => 0
  | regex => 1
  | gt => 2
  | lt => 3
  | gte => 4
  | lte => 5
  | isIn => 6

instance : Ord Operator := ⟨fun a b => compare a.rank b.rank⟩

theorem rank_injective {a b : Operator} (h : a.rank = b.rank) : a = b := by
  cases a <;> cases b <;> revert h <;> decide

instance : Std.TransOrd Operator where
  eq_swap {a b} := (Std.OrientedCmp.eq_swap : compare a.rank b.rank = _)
  isLE_trans {a _ c} h₁ h₂ := (Std.TransCmp.isLE_trans h₁ h₂ : (compare a.rank c.rank).isLE)

instance : Std.LawfulEqOrd Operator where
  eq_of_compare h := rank_injective (Nat.compare_eq_eq.mp h)

/-- The operators of a list in the operator order, repetitions kept. -/
def sort (ops : List Operator) : List Operator := ops.mergeSort (·.rank ≤ ·.rank)

/-! ## Tags determine operators -/

theorem mem_all (op : Operator) : op ∈ all := by cases op <;> decide

theorem tag_injective {a b : Operator} (h : a.tag = b.tag) : a = b := by
  cases a <;> cases b <;> revert h <;> decide

@[simp] theorem ofTag?_tag (op : Operator) : ofTag? op.tag = some op := by
  cases op <;> decide

/-- **The lookup is exact.**  A tag is recognised iff it is the tag of some operator, letter for
letter. -/
theorem ofTag?_eq_some_iff {t : String} {op : Operator} : ofTag? t = some op ↔ t = op.tag := by
  constructor
  · intro h
    have := List.find?_some h
    exact (beq_iff_eq.mp this).symm
  · rintro rfl
    exact ofTag?_tag op

/-- **No other text is a tag** than these seven. -/
theorem ofTag?_eq_none_iff {t : String} :
    ofTag? t = none ↔ t ∉ ["$eq", "$regex", "$gt", "$lt", "$gte", "$lte", "$in"] := by
  have htags : ["$eq", "$regex", "$gt", "$lt", "$gte", "$lte", "$in"] = all.map tag := rfl
  rw [ofTag?, List.find?_eq_none, htags]
  simp

end Operator

/-! ## Failing lookups -/

/-- The cause of a failed tag lookup: no operator has this tag. -/
structure UnknownTag where
  /-- the text that is no tag -/
  tag : String
  deriving DecidableEq, Repr

/-- The wording of a failed lookup.  The tag is put in as it stands. -/
def UnknownTag.message (e : UnknownTag) : String := "unknown operator tag '" ++ e.tag ++ "'"

/-- The operator of a tag, or the cause why there is none. -/
def Operator.parse (t : String) : Except UnknownTag Operator :=
  match Operator.ofTag? t with
  | some op => .ok op
  | none => .error ⟨t⟩

end RecordQuery
