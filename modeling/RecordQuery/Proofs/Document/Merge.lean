import RecordQuery.Proofs.Document.Extensionality

/-!
# Merging documents

`Document.merge d e` puts every condition of `e` into `d`.  Nothing of `d` gets lost but the values
under keys and operators that `e` has as well, and there the value of `e` counts
(**`Document.WellFormed.value?_merge`**).

The insertions of a merge are nested: an operator goes into the map of its key, which may be there
or not.  The law of the values says that none of this can be seen, so the algebra of merging is that
of `Option.or`.  Merging is associative, the empty document is its unit, and a document merged with
itself stays as it is.

`Document.WellFormed.insertAll_eq_merge` is how merges come about: conditions put into a document
that holds something already have the effect of the document that they make by themselves.
-/

namespace RecordQuery.Document

/-- **The document of both**: what `e` demands on top of what `d` demands. -/
def merge (d e : Document) : Document := d.insertAll e.conditions

variable {a b c d e : Document}

lemma WellFormed.merge (hd : d.WellFormed) (e : Document) : (d.merge e).WellFormed :=
  wellFormed_insertAll hd e.conditions

lemma WellFormed.lastAt?_conditions (h : d.WellFormed) (key : String) (op : Operator) :
    Condition.lastAt? d.conditions key op = d.value? key op := by
  have hd : ofConditions d.conditions = d := h.ofConditions_of_perm (.refl _)
  rw [← value?_ofConditions, hd]

/-- **The value of the second document counts**, where it has one. -/
theorem WellFormed.value?_merge (he : e.WellFormed) (d : Document) (key : String) (op : Operator) :
    (d.merge e).value? key op = (e.value? key op).or (d.value? key op) := by
  rw [Document.merge, value?_insertAll, he.lastAt?_conditions]

lemma WellFormed.insertAll_eq_merge (hd : d.WellFormed) (cs : List Condition) :
    d.insertAll cs = d.merge (ofConditions cs) := by
  refine (wellFormed_insertAll hd cs).ext (hd.merge _) fun key op => ?_
  rw [value?_insertAll, (wellFormed_ofConditions cs).value?_merge, value?_ofConditions]

/-! ## The laws of merging -/

lemma merge_empty (d : Document) : d.merge empty = d := rfl

lemma WellFormed.empty_merge (hd : d.WellFormed) : empty.merge d = d :=
  hd.ofConditions_of_perm (.refl _)

lemma WellFormed.merge_self (hd : d.WellFormed) : d.merge d = d := by
  refine (hd.merge d).ext hd fun key op => ?_
  rw [hd.value?_merge, Option.or_self]

/-- **Merging is associative.** -/
theorem WellFormed.merge_assoc (ha : a.WellFormed) (hb : b.WellFormed) (hc : c.WellFormed) :
    (a.merge b).merge c = a.merge (b.merge c) := by
  refine ((ha.merge b).merge c).ext (ha.merge _) fun key op => ?_
  rw [hc.value?_merge, hb.value?_merge, (hb.merge c).value?_merge, hc.value?_merge,
    Option.or_assoc]

end RecordQuery.Document
