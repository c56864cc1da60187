import RecordQuery.Proofs.Document.Production
import RecordQuery.Proofs.Document.Tree

/-!
# Null in a document

A store takes a null for a field that is missing, so a query should have none.  There is no value
for null, but JSON has no text for an infinity or a NaN, and a null stands for these.  The matrix
refuses floating-point numbers, though it looks at the outermost constructor only: **a sequence
under `$in` brings them in** (`Options.null_compiled`).

* `Json.isPlain` — texts, numbers, truth values and arrays: what a value ought to be written as.
* `Document.plain_below_iff` — below its operators a document is plain iff all floating-point
  numbers in its sequences are finite, and what is not plain there is null.
-/

namespace RecordQuery

/-- A text, a number, a truth value or an array. -/
def Json.isPlain : Json → Bool
  | string _ | integer _ | float _ | boolean _ | array _ => true
  | null | object _ => false

namespace Value

/-- Only an infinity or a NaN has a tree that is not plain. -/
lemma isPlain_toJson_iff {v : Value} :
    v.toJson.isPlain = true ↔ ∀ x, v = .float x → x.isFinite = true := by
  cases v with
  | float x =>
      rw [toJson]
      split
      · next hfinite => simp [Json.isPlain, hfinite]
      · next hinfinite => simp [Json.isPlain, hinfinite]
  | _ => simp [toJson, Json.isPlain]

lemma isPlain_toJson_or (v : Value) : v.toJson.isPlain = true ∨ v.toJson = .null := by
  cases v with
  | float x =>
      rw [toJson]
      split
      · exact .inl rfl
      · exact .inr rfl
  | _ => exact .inl rfl

end Value

namespace Document

variable {d : Document} {j : Json}

lemma IsTree.plain_or_null (hj : d.IsTree j) (h : d.WellFormed) {k : Json} (hk : j.Below k) :
    k.isPlain = true ∨ k = .null := by
  obtain ⟨_, _, _, w, _, _, rfl⟩ := (hj.below_iff h).mp hk
  exact w.isPlain_toJson_or

section

variable [PatternJudge]

/-- **Floating-point numbers hide in sequences.**  A value in which there is one is a sequence, and
its operator is `$in`. -/
lemma Produced.sequence_of_contains_float (h : d.Produced) {key : String} {op : Operator}
    {v : Value} {x : Binary64} (hv : d.value? key op = some v) (hx : v.Contains (.float x)) :
    op = .isIn ∧ ∃ items, v = .sequence items := by
  have hlegal := h.allows hv
  cases v with
  | sequence items => exact ⟨of_decide_eq_true hlegal, items, rfl⟩
  | float y => exact absurd hlegal Bool.false_ne_true
  | string _ | int _ | uint _ | boolean _ =>
      rcases within_iff.mp hx with heq | ⟨w, hw, _⟩
      · exact absurd heq nofun
      · exact absurd hw List.not_mem_nil

/-- **When a tree is plain below its operators**: if the sequences under `$in` have only finite
floating-point numbers in them. -/
lemma IsTree.plain_iff_finite (hj : d.IsTree j) (h : d.Produced) :
    (∀ k, j.Below k → k.isPlain = true) ↔
      ∀ key items x, d.value? key .isIn = some (.sequence items) →
        (Value.sequence items).Contains (.float x) → x.isFinite = true := by
  have hbelow := @IsTree.below_iff _ _ hj h.wellFormed
  constructor
  · intro hplain key items x hv hx
    have hk := hplain _ (hbelow.mpr ⟨key, .isIn, _, _, hv, hx, rfl⟩)
    exact Value.isPlain_toJson_iff.mp hk x rfl
  · intro hfinite k hk
    obtain ⟨key, op, v, w, hv, hw, rfl⟩ := hbelow.mp hk
    refine Value.isPlain_toJson_iff.mpr ?_
    rintro x rfl
    obtain ⟨rfl, items, rfl⟩ := h.sequence_of_contains_float hv hw
    exact hfinite key items x hv hw

/-- **Null in the texts of a document** that was built or compiled.  Both texts are those of trees,
and of either tree holds:

1. What is found below an operator is a text, a number, a truth value, an array or null.
2. There is no null among it iff all floating-point numbers in the sequences under `$in` are
   finite. -/
theorem plain_below_iff (d : Document) (h : d.Produced) :
    d.tree.render = d.render ∧ ∀ j, j = d.tree ∨ j = d.toJson →
      (∀ k, j.Below k → k.isPlain = true ∨ k = .null) ∧
      ((∀ k, j.Below k → k.isPlain = true) ↔
        ∀ key items x, d.value? key .isIn = some (.sequence items) →
          (Value.sequence items).Contains (.float x) → x.isFinite = true) := by
  have htrees : ∀ j, j = d.tree ∨ j = d.toJson → d.IsTree j := by
    rintro j (rfl | rfl)
    · exact isTree_tree d
    · exact isTree_toJson h.wellFormed
  refine ⟨render_tree d, fun j hj => ?_⟩
  exact ⟨fun k => (htrees j hj).plain_or_null h.wellFormed, (htrees j hj).plain_iff_finite h⟩

end

/-- A list of one finite floating-point number, and a text. -/
def finiteScores : List Descriptor := [
  ⟨"scores", "scores", "$in", .list [.scalar (.double ⟨0x3ff8000000000000⟩)]⟩,
  ⟨"name", "name", "$eq", .scalar (.string "a")⟩]

/-- A finite floating-point number in a sequence is no reason for a null. -/
theorem plain_below_finite :
    ∃ doc : Document, Options.standard.compile finiteScores = .ok doc ∧ doc.Produced ∧
      (∀ k, doc.tree.Below k → k.isPlain = true) ∧ ∀ k, doc.toJson.Below k → k.isPlain = true := by
  let cs : List Condition := [
    ⟨"scores", .isIn, .sequence [.float ⟨0x3ff8000000000000⟩]⟩, ⟨"name", .eq, .string "a"⟩]
  have hproduced : (ofConditions cs).Produced := .inr ⟨.standard, finiteScores, rfl⟩
  have hfinite : ∀ key items x, (ofConditions cs).value? key .isIn = some (.sequence items) →
      (Value.sequence items).Contains (.float x) → x.isFinite = true := by
    intro key items x hv hx
    rw [value?_ofConditions] at hv
    have hmem := Condition.mem_of_lastAt? hv
    obtain ⟨rfl, rfl⟩ : key = "scores" ∧ items = [.float ⟨0x3ff8000000000000⟩] := by
      simpa [cs] using hmem
    rcases within_iff.mp hx with heq | ⟨w, hw, hx⟩
    · exact absurd heq nofun
    obtain rfl := List.mem_singleton.mp hw
    rcases within_iff.mp hx with heq | ⟨_, hpart, _⟩
    · obtain rfl := Value.float.inj heq
      rfl
    · exact absurd hpart List.not_mem_nil
  obtain ⟨_, htrees⟩ := plain_below_iff _ hproduced
  exact ⟨_, rfl, hproduced, (htrees _ (.inl rfl)).2.mpr hfinite,
    (htrees _ (.inr rfl)).2.mpr hfinite⟩

end Document

/-- A list of one floating-point number, which is a NaN. -/
def nanScores : Descriptor :=
  ⟨"scores", "scores", "$in", .list [.scalar (.double ⟨0x7ff8000000000000⟩)]⟩

/-- **A null below an operator.**  The record compiles, and in both texts of the document a null
stands for the NaN. -/
theorem Options.null_compiled :
    ∃ doc, standard.compile [nanScores] = .ok doc ∧
      doc.render = "\x7b\"scores\":\x7b\"$in\":[null]\x7d\x7d" ∧
      doc.toJson.render = "\x7b\"scores\":\x7b\"$in\":[null]\x7d\x7d" ∧
      doc.tree.Below .null ∧ doc.toJson.Below .null := by
  have hbelow : (Json.object [("scores", .object [("$in", .array [.null])])]).Below .null :=
    ⟨"scores", _, "$in", _, ⟨_, rfl, List.mem_cons_self⟩, ⟨_, rfl, List.mem_cons_self⟩,
      .part List.mem_cons_self (.here _)⟩
  exact ⟨_, rfl, rfl, rfl, hbelow, hbelow⟩

end RecordQuery
