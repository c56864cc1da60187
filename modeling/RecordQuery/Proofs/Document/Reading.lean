import RecordQuery.Proofs.Document.Production
import RecordQuery.Proofs.Document.Tree
import RecordQuery.Proofs.Json.Reader

/-!
# Reading documents back

Nothing in the text of a value names its kind, and a signed number is written like the unsigned one
that is equal to it.  This file shows that **this is all that gets lost on the way to a text**,
either of the two that a document has, as long as there is no floating-point number in it.

* `Document.IsReadFrom` — what a text must be like to hold a document: it is JSON, no name is
  repeated in it, and what it says is the map of the document.
* `Document.texts_tell_all_but_signedness` — both texts of a document are like that, and two
  documents have the same text iff they differ in signedness at most.

How a reader rounds numbers that are not whole is of no consequence here, so any way to do it is
allowed.
-/

namespace RecordQuery.Document

variable (rounding : Bool → Decimal → Binary64)

/-- **The document is what a text says.**  The text can be read; its tree is one of the document; no
object in it has two members of one name; and under a key and a tag stands the tree of what the
document has there. -/
def IsReadFrom (d : Document) (text : String) : Prop :=
  ∃ j, Json.read rounding text = some j ∧ d.IsTree j ∧ j.NamesUnique ∧
    ∀ key tag k, (∃ operators, j.HasMember key operators ∧ operators.HasMember tag k)
      ↔ ∃ op v, d.value? key op = some v ∧ op.tag = tag ∧ v.toJson = k

variable {rounding} {d e : Document} {j : Json}

lemma IsTree.read_render (hj : d.IsTree j) (h : d.WellFormed) (hd : d.FloatFree) :
    Json.read rounding j.render = some j :=
  Json.read_render rounding (hj.floatFree h hd)

lemma IsTree.isReadFrom (hj : d.IsTree j) (h : d.WellFormed) (hd : d.FloatFree) :
    d.IsReadFrom rounding j.render :=
  ⟨j, hj.read_render h hd, hj, hj.namesUnique h, fun _ _ _ => hj.hasMember_iff h⟩

lemma unsigned_eq_of_render_eq {k : Json} (hd : d.WellFormed) (he : e.WellFormed)
    (hdf : d.FloatFree) (hef : e.FloatFree) (hj : d.IsTree j) (hk : e.IsTree k)
    (h : j.render = k.render) : d.unsigned = e.unsigned := by
  -- a reader takes the two texts for the same tree, however it rounds
  have hread : some j = some k :=
    calc some j = Json.read (fun _ _ => ⟨0⟩) j.render := (hj.read_render hd hdf).symm
      _ = Json.read (fun _ _ => ⟨0⟩) k.render := by rw [h]
      _ = some k := hk.read_render he hef
  obtain rfl := Option.some.inj hread
  exact unsigned_eq_of_isTree hd he hdf hef hj hk

lemma render_eq_iff (hd : d.WellFormed) (he : e.WellFormed) (hdf : d.FloatFree)
    (hef : e.FloatFree) : d.render = e.render ↔ d.unsigned = e.unsigned := by
  constructor
  · rw [← render_tree, ← render_tree]
    exact unsigned_eq_of_render_eq hd he hdf hef (isTree_tree d) (isTree_tree e)
  · intro h
    rw [← render_unsigned d, h, render_unsigned]

lemma render_toJson_eq_iff (hd : d.WellFormed) (he : e.WellFormed) (hdf : d.FloatFree)
    (hef : e.FloatFree) : d.toJson.render = e.toJson.render ↔ d.unsigned = e.unsigned := by
  constructor
  · exact unsigned_eq_of_render_eq hd he hdf hef (isTree_toJson hd) (isTree_toJson he)
  · intro h
    rw [← toJson_unsigned d, h, toJson_unsigned]

lemma floatFree_ofConditions {cs : List Condition} (h : ∀ c ∈ cs, c.value.FloatFree) :
    (ofConditions cs).FloatFree := by
  intro key op v hv
  rw [value?_ofConditions] at hv
  exact h _ (Condition.mem_of_lastAt? hv)

section

variable [PatternJudge] (rounding)

/-- **Texts tell everything but signedness.**  For documents that were built or compiled and have no
floating-point number in them, at any depth:

1. Either text can be read, repeats no name and says what the document says.
2. What it says of a value tells the value up to the signedness of numbers that are not negative.
3. Two documents have the same text iff they are equal up to that. -/
theorem texts_tell_all_but_signedness :
    (∀ d : Document, d.Produced → d.FloatFree →
      d.IsReadFrom rounding d.render ∧ d.IsReadFrom rounding d.toJson.render) ∧
    (∀ v w : Value, v.FloatFree → w.FloatFree → (v.toJson = w.toJson ↔ v.unsigned = w.unsigned)) ∧
    ∀ d e : Document, d.Produced → d.FloatFree → e.Produced → e.FloatFree →
      (d.render = e.render ↔ d.unsigned = e.unsigned) ∧
        (d.toJson.render = e.toJson.render ↔ d.unsigned = e.unsigned) := by
  refine ⟨fun d hd hdf => ?_, fun v w => Value.toJson_eq_iff, fun d e hd hdf he hef => ?_⟩
  · have hshape := hd.wellFormed
    constructor
    · rw [← render_tree]
      exact (isTree_tree d).isReadFrom hshape hdf
    · exact (isTree_toJson hshape).isReadFrom hshape hdf
  · exact ⟨render_eq_iff hd.wellFormed he.wellFormed hdf hef,
      render_toJson_eq_iff hd.wellFormed he.wellFormed hdf hef⟩

end

/-- A demand on tags, one of which is a list itself. -/
def nestedTags : Condition :=
  ⟨"tags", .isIn, .sequence [.string "a", .sequence [.boolean true]]⟩

/-- The same age with a sign and without one, beside nested tags. -/
theorem texts_tell_age :
    let signed : List Condition := [⟨"age", .gte, .int 18⟩, nestedTags]
    let plain : List Condition := [⟨"age", .gte, .uint 18⟩, nestedTags]
    (ofConditions signed).Produced ∧ (ofConditions signed).FloatFree ∧
      (ofConditions plain).Produced ∧ (ofConditions plain).FloatFree ∧
      (ofConditions signed).IsReadFrom (fun _ _ => ⟨0⟩) (ofConditions signed).render ∧
      (ofConditions signed).IsReadFrom (fun _ _ => ⟨0⟩) (ofConditions signed).toJson.render ∧
      (ofConditions signed).render = (ofConditions plain).render ∧
      (ofConditions signed).toJson.render = (ofConditions plain).toJson.render ∧
      (Value.int 18).toJson = (Value.uint 18).toJson := by
  intro signed plain
  have hint : (Value.int 18).FloatFree := Value.floatFree_of_parts nofun nofun
  have huint : (Value.uint 18).FloatFree := Value.floatFree_of_parts nofun nofun
  have htext : (Value.string "a").FloatFree := Value.floatFree_of_parts nofun nofun
  have htruth : (Value.boolean true).FloatFree := Value.floatFree_of_parts nofun nofun
  have hinner : (Value.sequence [.boolean true]).FloatFree :=
    Value.floatFree_of_parts nofun (by simpa [Value.parts] using htruth)
  have htags : nestedTags.value.FloatFree :=
    Value.floatFree_of_parts nofun (by simpa [nestedTags, Value.parts] using ⟨htext, hinner⟩)
  have hsigned : (ofConditions signed).FloatFree :=
    floatFree_ofConditions (by simpa [signed] using ⟨hint, htags⟩)
  have hplain : (ofConditions plain).FloatFree :=
    floatFree_ofConditions (by simpa [plain] using ⟨huint, htags⟩)
  have hproduced : (ofConditions signed).Produced := .inl ⟨signed.map .add, rfl⟩
  have hproduced' : (ofConditions plain).Produced := .inl ⟨plain.map .add, rfl⟩
  obtain ⟨hread, hvalue, htexts⟩ := texts_tell_all_but_signedness fun _ _ => ⟨0⟩
  obtain ⟨hdirect, hjson⟩ := hread _ hproduced hsigned
  obtain ⟨hrender, hrender'⟩ := htexts _ _ hproduced hsigned hproduced' hplain
  have hsame : (ofConditions signed).unsigned = (ofConditions plain).unsigned := rfl
  exact ⟨hproduced, hsigned, hproduced', hplain, hdirect, hjson, hrender.mpr hsame,
    hrender'.mpr hsame, (hvalue _ _ hint huint).mpr rfl⟩

end RecordQuery.Document
