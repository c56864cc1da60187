import RecordQuery.Proofs.Document.Production
import RecordQuery.Proofs.Document.Tree

/-!
# The two texts of a document

One text is written straight from the document and the other from its JSON tree.  The operators of
a key have two orders, their own and that of their tags: `$regex` is second in one and last in the
other.  **This is the only difference between the texts** (`Document.texts_differ_in_order`).

* `OperatorMap.byTag` — the operators of a key in the order of their tags.
* `OperatorMap.renderInOrder` — their text in a given order.
* `OperatorMap.toJson_eq` — the JSON tree has them in the order of the tags, because there is only
  one way to sort things by different keys.

The two levels of a document behave differently under sorting.  Keys are kept in the byte order and
stay where they are, operators are not, and below the operators nothing is sorted at all.
-/

namespace RecordQuery

namespace OperatorMap

variable {m : OperatorMap}

/-- **The operators with their values, in the order of the tags.** -/
def byTag (m : OperatorMap) : List (Operator × Value) :=
  m.entries.mergeSort fun p q => (compare p.1.tag q.1.tag).isLE

/-- The JSON text of operators in the order in which they are given. -/
def renderInOrder (operators : List (Operator × Value)) : String :=
  Json.brace (operators.map fun p => Json.member p.1.tag p.2.render)

lemma perm_byTag (m : OperatorMap) : m.byTag.Perm m.entries := List.mergeSort_perm ..

/-- Tags are different, so their order is strict. -/
lemma pairwise_byTag (h : m.Sorted) :
    m.byTag.Pairwise fun p q => compare p.1.tag q.1.tag = .lt := by
  have hle : m.byTag.Pairwise fun p q => (compare p.1.tag q.1.tag).isLE = true := by
    refine List.pairwise_mergeSort ?trans ?total m.entries
    case trans =>
      intro p q r
      exact Std.TransCmp.isLE_trans
    case total =>
      intro p q
      cases hpq : compare p.1.tag q.1.tag with
      | lt => rfl
      | eq => rfl
      | gt => rw [Std.OrientedCmp.lt_of_gt hpq]; rfl
  have hne : m.byTag.Pairwise fun p q => p.1.tag ≠ q.1.tag := by
    have hnodup := nodup_tags h
    rw [List.map_map, ← ((perm_byTag m).map _).nodup_iff] at hnodup
    exact List.pairwise_map.mp hnodup
  refine (hle.and hne).imp ?_
  rintro p q ⟨hpq, htags⟩
  cases hcompare : compare p.1.tag q.1.tag with
  | lt => rfl
  | eq => exact absurd (Std.LawfulEqOrd.eq_of_compare hcompare) htags
  | gt => simp [hcompare] at hpq

/-- **The JSON tree has the operators in the order of their tags.** -/
lemma toJson_eq (h : m.Sorted) :
    toJson m = .object (m.byTag.map fun p => (p.1.tag, p.2.toJson)) := by
  refine congrArg Json.object (OrderedMap.eq_of_mem_iff Prod.fst (OrderedMap.sorted_ofList _) ?_ ?_)
  · exact List.pairwise_map.mpr (pairwise_byTag h)
  · intro e
    rw [(OrderedMap.perm_entries_ofList (nodup_tags h)).mem_iff]
    exact ((perm_byTag m).map _).mem_iff.symm

lemma render_toJson (h : m.Sorted) : (toJson m).render = renderInOrder m.byTag := by
  simp only [toJson_eq h, renderInOrder, Json.render_object_map, Value.render_toJson]

end OperatorMap

namespace Document

variable {d : Document}

lemma render_toJson (h : d.WellFormed) : d.toJson.render
    = Json.brace (d.toList.map fun e =>
        Json.member e.1 (OperatorMap.renderInOrder (OperatorMap.byTag e.2))) := by
  rw [toJson_eq h, Json.render_object_map]
  refine congrArg Json.brace (List.map_congr_left fun e he => ?_)
  rw [OperatorMap.render_toJson (h.operators_sorted e he)]

section

variable [PatternJudge]

/-- **The texts of a document differ in the order of operators**, and in nothing else.  For a
document that was built or compiled, whatever floating-point numbers are in its sequences:

1. The text that is written straight from it has its keys, and under each of them the operators in
   their own order.
2. The text of its tree has the same keys in the same order, and under each of them the same
   operators with the same texts of values, in the byte order of the tags.
3. There is a tree, so null never stands in its place.  It is an object with the keys as names,
   ascending in the byte order, and under a key stands an object with one member for every operator
   that the document has there.
4. What is written of a value is the same in both. -/
theorem texts_differ_in_order (d : Document) (h : d.Produced) :
    d.render = Json.brace (d.toList.map fun e =>
      Json.member e.1 (OperatorMap.renderInOrder e.2.entries)) ∧
    d.toJson.render = Json.brace (d.toList.map fun e =>
      Json.member e.1 (OperatorMap.renderInOrder (OperatorMap.byTag e.2))) ∧
    (∀ e ∈ d.toList,
      (e.2.entries.Pairwise fun p q => compare p.1 q.1 = .lt) ∧
      (OperatorMap.byTag e.2).Perm e.2.entries ∧
      (OperatorMap.byTag e.2).Pairwise fun p q => Text.bytes p.1.tag < Text.bytes q.1.tag) ∧
    (∃ members, d.toJson? = .ok (.object members) ∧ d.toJson = .object members ∧
      members.map (·.1) = d.keys ∧
      (d.keys.Pairwise fun k l => Text.bytes k < Text.bytes l) ∧
      ∀ key j, (key, j) ∈ members ↔ ∃ m, d.get? key = some m ∧
        j = .object ((OperatorMap.byTag m).map fun p => (p.1.tag, p.2.toJson))) ∧
    ∀ v : Value, v.toJson.render = v.render := by
  have hshape := h.wellFormed
  have hget : ∀ key m, d.get? key = some m ↔ (key, m) ∈ d.toList :=
    fun _ _ => OrderedMap.find?_eq_some_iff hshape.keys_sorted
  refine ⟨rfl, render_toJson hshape, fun e he => ?orders, ⟨_, toJson?_of_wellFormed hshape,
    toJson_eq hshape, ?keys, h.valid.keys_ascend, fun key j => ?members⟩, Value.render_toJson⟩
  case orders =>
    have hsorted := hshape.operators_sorted e he
    exact ⟨hsorted, OperatorMap.perm_byTag e.2,
      (OperatorMap.pairwise_byTag hsorted).imp Text.bytes_lt_of_compare⟩
  case keys =>
    rw [List.map_map]
    rfl
  case members =>
    simp only [hget, List.mem_map, Prod.exists, Prod.mk.injEq]
    constructor
    · rintro ⟨key, m, hm, rfl, rfl⟩
      exact ⟨m, hm, OperatorMap.toJson_eq (hshape.operators_sorted _ hm)⟩
    · rintro ⟨m, hm, rfl⟩
      exact ⟨key, m, hm, rfl, OperatorMap.toJson_eq (hshape.operators_sorted _ hm)⟩

end

/-- Operators that are in another order than their tags, and a sequence with a number and a NaN
inside. -/
def ageDemands : List Condition := [
  ⟨"age", .lt, .int 65⟩, ⟨"name", .regex, .string "^a"⟩, ⟨"age", .gte, .int 18⟩,
  ⟨"age", .isIn, .sequence [.float ⟨0x4035600000000000⟩, .float ⟨0x7ff8000000000000⟩,
    .sequence [.uint 21]]⟩]

/-- The two texts of one document. -/
theorem texts_differ_in_order_age :
    let d := ofConditions ageDemands
    let name := "\"name\":\x7b\"$regex\":\"^a\"\x7d\x7d"
    d.Produced ∧
      d.render
        = "\x7b\"age\":\x7b\"$lt\":65,\"$gte\":18,\"$in\":[21.375,null,[21]]\x7d," ++ name ∧
      d.toJson.render
        = "\x7b\"age\":\x7b\"$gte\":18,\"$in\":[21.375,null,[21]],\"$lt\":65\x7d," ++ name ∧
      d.toJson.render = Json.brace (d.toList.map fun e =>
        Json.member e.1 (OperatorMap.renderInOrder (OperatorMap.byTag e.2))) ∧
      ∃ members, d.toJson? = .ok (.object members) ∧ members.map (·.1) = ["age", "name"] := by
  have hproduced : (ofConditions ageDemands).Produced := .inl ⟨ageDemands.map .add, rfl⟩
  obtain ⟨_, htree, _, ⟨members, hmembers, _, hkeys, _⟩, _⟩ := texts_differ_in_order _ hproduced
  exact ⟨hproduced, rfl, rfl, htree, members, hmembers, hkeys⟩

end Document

end RecordQuery
