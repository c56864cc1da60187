import RecordQuery.Scalar

/-!
# Fields

The content of a record field.  A field is a scalar, a leaf of a type that reports its own value
and state, or one of these behind references, in options and in containers, nested to any depth.

A field has a **value** and an **unset state**, and the two recursions stop at different places.

* `Field.value` goes through everything; each container becomes a sequence with one item per
  element, unset elements included.
* `Field.isUnset` goes through references and through arrays of a fixed length, whose elements
  must all be unset.  It stops at lists and slices, which are unset only when empty, and at an
  option that is present, which is never unset.

An absent option has no value of its own.  It is written as the empty sequence, which is of no
consequence as long as the field that holds it is unset.
-/

namespace RecordQuery

/-- The content of a record field. -/
inductive Field
  /-- a typed leaf -/
  | scalar (s : Scalar)
  /-- a leaf that reports its state and its value itself -/
  | custom (unset : Bool) (value : Value)
  /-- a reference to another content -/
  | reference (target : Field)
  /-- an option that is absent -/
  | absent
  /-- an option that is present -/
  | present (content : Field)
  /-- a sequence whose length is part of its type -/
  | array (elements : List Field)
  /-- a view of consecutive elements -/
  | slice (elements : List Field)
  /-- a growable sequence -/
  | list (elements : List Field)
  deriving Inhabited

namespace Field

mutual

/-- **The value** that the field contributes to a query. -/
def value : Field → Value
  | scalar s => s.fieldValue
  | custom _ v => v
  | reference f => f.value
  | absent => .sequence []
  | present f => f.value
  | array fs | slice fs | list fs => .sequence (values fs)

/-- The values of the elements of a container. -/
def values : List Field → List Value
  | [] => []
  | f :: fs => f.value :: values fs

end

theorem values_eq_map (fs : List Field) : values fs = fs.map value := by
  induction fs with
  | nil => rfl
  | cons f fs ih => simp [values, ih]

mutual

/-- **Whether the field is unset**, so that it contributes nothing. -/
def isUnset : Field → Bool
  | scalar s => s.isUnset
  | custom unset _ => unset
  | reference f => f.isUnset
  | absent => true
  | present _ => false
  | array fs => allUnset fs
  | slice fs | list fs => fs.isEmpty

/-- Whether every element of a container is unset. -/
def allUnset : List Field → Bool
  | [] => true
  | f :: fs => f.isUnset && allUnset fs

end

theorem allUnset_eq_all (fs : List Field) : allUnset fs = fs.all isUnset := by
  induction fs with
  | nil => rfl
  | cons f fs ih => simp [allUnset, ih]

end Field

end RecordQuery
