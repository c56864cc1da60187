import RecordQuery.Proofs.Document.Texts
import RecordQuery.Proofs.Value.Agreement

/-!
# Documents that agree

Agreement of documents is the equality by which one document is taken for another.  It compares
floating-point numbers as numbers, and JSON text writes them digit by digit and with their sign.
The two zeros are where this matters: `0.0` and `-0.0` agree and are not written alike
(`Document.agreeing_texts_differ`).  They get into a document inside of sequences, which is where
the matrix does not look.

This file says that the zeros are all there is to it.

* `Document.agrees_iff` — documents agree iff they are the same up to the signs of zeros and have no
  NaN in them.
* `Document.separates_of_agrees`, `Document.separates_toJson` — documents that agree are the same,
  or their texts diverge.  This goes through both levels of names, and for the text of the tree it
  has to get past the sorting of operators, which brings the same operators to the same places.
* **`Document.agreeing_documents`** — when documents that agree have the same texts.
-/

namespace RecordQuery

/-- **Related lists stay related when they are sorted** by an order that does not tell related items
apart. -/
lemma forall₂_mergeSort {α : Type} {related : α → α → Prop} {le : α → α → Bool} {xs ys : List α}
    (h : List.Forall₂ related xs ys)
    (hle : ∀ {x y x' y'}, related x y → related x' y' → le x x' = le y y') :
    List.Forall₂ related (xs.mergeSort le) (ys.mergeSort le) := by
  obtain ⟨hlength, hrelated⟩ := List.forall₂_iff_zip.mp h
  -- the pairs of related items, sorted by either component
  let pairs := (xs.zip ys).mergeSort fun p q => le p.1 q.1
  have hfirst : pairs.map Prod.fst = xs.mergeSort le := by
    rw [List.map_mergeSort (s := le) fun _ _ _ _ => rfl, List.map_fst_zip hlength.le]
  have hsecond : pairs.map Prod.snd = ys.mergeSort le := by
    rw [List.map_mergeSort (s := le) fun _ hp _ hq => hle (hrelated hp) (hrelated hq),
      List.map_snd_zip hlength.ge]
  rw [← hfirst, ← hsecond, List.forall₂_map_left_iff, List.forall₂_map_right_iff, List.forall₂_same]
  intro p hp
  exact hrelated (List.mem_mergeSort.mp hp)

/-! ## Maps -/

namespace OrderedMap

variable {α β γ : Type}

lemma mapValues_eq_self {m : OrderedMap α β} {f : β → β} (h : ∀ e ∈ m.entries, f e.2 = e.2) :
    m.mapValues f = m := by
  have hentries : m.entries.map (fun e => (e.1, f e.2)) = m.entries.map id :=
    List.map_congr_left fun e he => Prod.ext rfl (h e he)
  rw [mapValues, hentries, List.map_id]

variable [Ord α] [Std.LawfulEqOrd α] {m n : OrderedMap α β} {related : β → β → Bool}

/-- **Maps agree entry by entry**, with the same keys in the same places. -/
lemma agreesBy_iff : m.agreesBy related n = true ↔
    List.Forall₂ (fun e f => e.1 = f.1 ∧ related e.2 f.2 = true) m.entries n.entries := by
  simp [List.forall₂_iff_zip, agreesBy, size]

/-- If the relation compares images, so does the agreement of maps. -/
lemma agreesBy_iff_mapValues {demand : β → Prop} {f : β → γ}
    (h : ∀ v w, related v w = true ↔ demand v ∧ f v = f w) :
    m.agreesBy related n = true ↔
      (∀ e ∈ m.entries, demand e.2) ∧ m.mapValues f = n.mapValues f := by
  have hentries : ∀ e ∈ m.entries, ∀ e' : α × β, (e.1 = e'.1 ∧ related e.2 e'.2 = true) ↔
      demand e.2 ∧ (e.1, f e.2) = (e'.1, f e'.2) := by
    intro e _ e'
    rw [h, Prod.mk.injEq]
    exact and_left_comm
  rw [agreesBy_iff, forall₂_iff_map_eq hentries, mapValues, mapValues, mk.injEq]

end OrderedMap

namespace OperatorMap

variable {m n : OperatorMap}

lemma separates_render (h : m.agreesBy Value.agrees n = true) : Text.Separates render m n := by
  have hentries := (OrderedMap.agreesBy_iff.mp h).imp fun p q hpq =>
    And.imp_right Value.separates_of_agrees hpq
  refine (Text.Separates.brace Operator.tag hentries).imp_left fun heq => ?_
  exact congrArg OrderedMap.mk heq

/-- **Sorting by tags does not mix anything up**: the same operators come to the same places. -/
lemma separates_byTag (hm : m.Sorted) (hn : n.Sorted) (h : m.agreesBy Value.agrees n = true) :
    Text.Separates (fun m => renderInOrder (byTag m)) m n := by
  have hsorted : List.Forall₂ (fun p q => p.1 = q.1 ∧ p.2.agrees q.2 = true) m.byTag n.byTag := by
    refine forall₂_mergeSort (OrderedMap.agreesBy_iff.mp h) ?_
    intro p q p' q' hpq hpq'
    rw [hpq.1, hpq'.1]
  have hentries := hsorted.imp fun p q hpq => And.imp_right Value.separates_of_agrees hpq
  refine (Text.Separates.brace Operator.tag hentries).imp_left fun heq => ?_
  -- both maps were sorted by rank before, so they are the same if their sorted lists are
  refine congrArg OrderedMap.mk (OrderedMap.eq_of_mem_iff Prod.fst hm hn fun p => ?_)
  rw [← (perm_byTag m).mem_iff, heq, (perm_byTag n).mem_iff]

end OperatorMap

/-! ## Documents -/

namespace Document

variable {d e : Document}

/-- **Every floating-point number in the document meets the demand**, at any depth. -/
def EveryFloat (demand : Binary64 → Prop) (d : Document) : Prop :=
  d.Every fun _ _ v => v.EveryFloat demand

/-- **The document with its zeros made positive.** -/
def plainZeros (d : Document) : Document :=
  ⟨d.entries.mapValues fun m => m.mapValues Value.plainZeros⟩

/-- **Documents agree** iff they are the same up to the signs of zeros and there is no NaN in
them. -/
theorem agrees_iff : d.agrees e = true ↔
    (d.EveryFloat fun x => x.isNaN = false) ∧ d.plainZeros = e.plainZeros := by
  have hmaps : ∀ m n : OperatorMap, m.agreesBy Value.agrees n = true ↔
      (∀ p ∈ m.entries, p.2.EveryFloat fun x => x.isNaN = false) ∧
        m.mapValues Value.plainZeros = n.mapValues Value.plainZeros :=
    fun m n => OrderedMap.agreesBy_iff_mapValues fun _ _ => Value.agrees_iff
  rw [plainZeros, plainZeros, mk.injEq]
  exact OrderedMap.agreesBy_iff_mapValues hmaps

lemma plainZeros_eq_self (h : d.EveryFloat fun x => x.isNegativeZero = false) :
    d.plainZeros = d := by
  refine congrArg mk (OrderedMap.mapValues_eq_self fun e he => ?_)
  exact OrderedMap.mapValues_eq_self fun p hp => Value.plainZeros_eq_self (h e he p hp)

lemma eq_of_agrees (h : d.agrees e = true) (hd : d.EveryFloat fun x => x.isNegativeZero = false)
    (he : e.EveryFloat fun x => x.isNegativeZero = false) : d = e :=
  calc d = d.plainZeros := (plainZeros_eq_self hd).symm
    _ = e.plainZeros := (agrees_iff.mp h).2
    _ = e := plainZeros_eq_self he

/-- **Documents that agree are the same, or their texts diverge.** -/
lemma separates_of_agrees (h : d.agrees e = true) : Text.Separates render d e := by
  have hentries := (OrderedMap.agreesBy_iff.mp h).imp fun p q hpq =>
    And.imp_right OperatorMap.separates_render hpq
  refine (Text.Separates.brace id hentries).imp_left fun heq => ?_
  exact congrArg (mk ∘ OrderedMap.mk) heq

lemma separates_toJson (hd : d.WellFormed) (he : e.WellFormed) (h : d.agrees e = true) :
    Text.Separates (fun d => d.toJson.render) d e := by
  -- pairs of entries, so that it is known of either map that it is sorted
  obtain ⟨hlength, hrelated⟩ := List.forall₂_iff_zip.mp (OrderedMap.agreesBy_iff.mp h)
  have hentries : List.Forall₂ (fun p q => p.1 = q.1 ∧
      Text.Separates (fun m => OperatorMap.renderInOrder (OperatorMap.byTag m)) p.2 q.2)
      d.toList e.toList := by
    refine List.forall₂_iff_zip.mpr ⟨hlength, fun hpq => ?_⟩
    obtain ⟨hp, hq⟩ := List.of_mem_zip hpq
    obtain ⟨hkey, hm⟩ := hrelated hpq
    exact ⟨hkey, OperatorMap.separates_byTag (hd.operators_sorted _ hp)
      (he.operators_sorted _ hq) hm⟩
  simp only [Text.Separates, render_toJson hd, render_toJson he]
  refine (Text.Separates.brace id hentries).imp_left fun heq => ?_
  exact congrArg (mk ∘ OrderedMap.mk) heq

section

variable [PatternJudge]

/-- **When documents that agree have the same texts.**  For documents that were built or compiled:

1. They agree iff they are the same up to the signs of zeros and there is no NaN in them.
2. If they agree, then either text is the same iff the signs of all zeros are, that is, iff the
   documents are the same.
3. So documents that agree have the same texts if there is no negative zero in them. -/
theorem agreeing_documents (d e : Document) (hd : d.Produced) (he : e.Produced) :
    (d.agrees e = true ↔
      (d.EveryFloat fun x => x.isNaN = false) ∧ d.plainZeros = e.plainZeros) ∧
    (d.agrees e = true →
      (d.render = e.render ↔ d = e) ∧ (d.toJson.render = e.toJson.render ↔ d = e)) ∧
    (d.agrees e = true → (d.EveryFloat fun x => x.isNegativeZero = false) →
      (e.EveryFloat fun x => x.isNegativeZero = false) →
      d.render = e.render ∧ d.toJson.render = e.toJson.render) := by
  refine ⟨agrees_iff, fun h => ⟨?_, ?_⟩, fun h hdz hez => ?_⟩
  · exact (separates_of_agrees h).text_eq_iff
  · exact (separates_toJson hd.wellFormed he.wellFormed h).text_eq_iff
  · rw [eq_of_agrees h hdz hez]
    exact ⟨rfl, rfl⟩

end

/-- Scores in single precision, one of which is zero. -/
def singleScores : Descriptor :=
  ⟨"scores", "scores", "$in", .list [.scalar (.single ⟨0x3fc00000⟩), .scalar (.single ⟨0⟩)]⟩

/-- The same scores in double precision. -/
def doubleScores : Condition :=
  ⟨"scores", .isIn, .sequence [.float ⟨0x3ff8000000000000⟩, .float ⟨0⟩]⟩

/-- A compiled document and a built one that agree, without a negative zero. -/
theorem agreeing_documents_scores :
    ∃ compiled built : Document,
      Options.standard.compile [singleScores] = .ok compiled ∧ compiled.Produced ∧
      (Builder.new.run [.add doubleScores]).build = .ok built ∧ built.Produced ∧
      compiled.agrees built = true ∧ (compiled.EveryFloat fun x => x.isNaN = false) ∧
      (compiled.EveryFloat fun x => x.isNegativeZero = false) ∧ compiled = built ∧
      compiled.render = built.render ∧ compiled.toJson.render = built.toJson.render := by
  let doc := ofConditions [doubleScores]
  have hcompiled : Options.standard.compile [singleScores] = .ok doc := rfl
  have hbuilt : (Builder.new.run [.add doubleScores]).build = .ok doc := rfl
  have hagrees : doc.agrees doc = true := by decide
  have hpositive : doc.EveryFloat fun x => x.isNegativeZero = false := by
    have hbits : (⟨0x3ff8000000000000⟩ : Binary64).isNegativeZero = false ∧
        (⟨0⟩ : Binary64).isNegativeZero = false := by decide
    refine every_insertAll every_empty ?_
    simpa [doubleScores] using hbits
  have hproduced : doc.Produced := .inr ⟨.standard, [singleScores], hcompiled⟩
  have hproduced' : doc.Produced := .inl ⟨[.add doubleScores], hbuilt⟩
  obtain ⟨hsame, htexts, hplain⟩ := agreeing_documents doc doc hproduced hproduced'
  obtain ⟨hrender, hjson⟩ := hplain hagrees hpositive hpositive
  exact ⟨doc, doc, hcompiled, hproduced, hbuilt, hproduced', hagrees, (hsame.mp hagrees).1,
    hpositive, (htexts hagrees).1.mp hrender, hrender, hjson⟩

/-- A demand on scores to be in a list of one double. -/
def scoreIn (bits : UInt64) : Condition := ⟨"scores", .isIn, .sequence [.float ⟨bits⟩]⟩

/-- **The two zeros make documents that agree and are not written alike**, neither directly nor by
way of their trees. -/
theorem agreeing_texts_differ :
    let plain := ofConditions [scoreIn 0]
    let negative := ofConditions [scoreIn 0x8000000000000000]
    plain.Produced ∧ negative.Produced ∧ plain.agrees negative = true ∧
      plain.render = "\x7b\"scores\":\x7b\"$in\":[0.0]\x7d\x7d" ∧
      negative.render = "\x7b\"scores\":\x7b\"$in\":[-0.0]\x7d\x7d" ∧
      plain.render ≠ negative.render ∧ plain.toJson.render ≠ negative.toJson.render := by
  refine ⟨.inl ⟨[.add (scoreIn 0)], rfl⟩, .inl ⟨[.add (scoreIn 0x8000000000000000)], rfl⟩,
    by decide, rfl, rfl, ?_, ?_⟩
  · decide
  · decide

end Document

end RecordQuery
