import RecordQuery.Document.Text
import RecordQuery.Proofs.Document.Production

/-!
# The views of a document

A document can be asked for a key, for a key and an operator, for the list of its keys, for their
number, and it can be gone through entry by entry: by enumeration, in a loop that keeps the document
and in one that gives it up.  Each of these is computed in its own way from the same two levels of
entries.  **They all show one finite map** (`Document.Coherent`).

Two of the agreements are not for free.  A key without operators would be listed without having any
value, and a key that stands twice, or out of order, would be gone through twice and found once.
Documents that were built or compiled are well-formed, which excludes both, and then the values
alone determine everything that can be seen of a document (`Document.views_agree`).
-/

namespace RecordQuery

/-- **Look-up finds something under the keys** that are listed, and under no others. -/
lemma OrderedMap.isSome_find?_iff {α β : Type} [Ord α] [Std.LawfulEqOrd α] {m : OrderedMap α β}
    {k : α} : (m.find? k).isSome = true ↔ k ∈ m.keys := by
  obtain ⟨es⟩ := m
  change (findIn k es).isSome = true ↔ k ∈ es.map (·.1)
  induction es with
  | nil => simp [findIn]
  | cons e es ih =>
      obtain ⟨a, b⟩ := e
      rw [findIn]
      split
      · next hk => simp [Std.LawfulEqOrd.eq_of_compare hk]
      · next hk =>
        have hne : k ≠ a := by
          rintro rfl
          simp at hk
        simp [ih, hne]

namespace Document

variable {d : Document} {key : String} {op : Operator} {v : Value}

/-- **The views show one map**: keys, look-up and enumeration say the same. -/
structure Coherent (d : Document) : Prop where
  /-- The keys that are contained are those under which there are operators. -/
  contains_iff_get? : ∀ key, d.contains key = true ↔ (d.get? key).isSome = true
  /-- These are the keys that are listed. -/
  get?_iff_mem_keys : ∀ key, (d.get? key).isSome = true ↔ key ∈ d.keys
  /-- These are the keys under which some operator has a value. -/
  mem_keys_iff_value? : ∀ key, key ∈ d.keys ↔ ∃ op, (d.value? key op).isSome = true
  /-- The value of a key and an operator is found by looking up one after the other. -/
  value?_iff_get? : ∀ key op v,
    d.value? key op = some v ↔ ∃ m, d.get? key = some m ∧ m.find? op = some v
  /-- Going through the document yields the key with operators among which the value is found. -/
  value?_iff_toList : ∀ key op v,
    d.value? key op = some v ↔ ∃ m, (key, m) ∈ d.toList ∧ m.find? op = some v
  /-- So it does in a loop that keeps the document. -/
  value?_iff_borrowingLoop : ∀ key op v,
    d.value? key op = some v ↔ ∃ m, (key, m) ∈ d.borrowingLoop ∧ m.find? op = some v
  /-- So it does in a loop that gives it up. -/
  value?_iff_consumingLoop : ∀ key op v,
    d.value? key op = some v ↔ ∃ m, (key, m) ∈ d.consumingLoop ∧ m.find? op = some v
  /-- Going through the document yields the keys in the order in which they are listed, in whatever
  way it is done. -/
  toList_keys : d.toList.map (·.1) = d.keys ∧ d.borrowingLoop.map (·.1) = d.keys ∧
    d.consumingLoop.map (·.1) = d.keys
  /-- Every key is listed exactly once. -/
  count_keys : ∀ key ∈ d.keys, d.keys.count key = 1
  /-- The keys ascend strictly in the order of their bytes. -/
  keys_ascend : d.keys.Pairwise fun k l => Text.bytes k < Text.bytes l
  /-- The size is the length of the list. -/
  size_eq : d.size = d.keys.length ∧ d.size = d.toList.length
  /-- The document is empty if the list is. -/
  isEmpty_iff : d.isEmpty = true ↔ d.keys = []

lemma WellFormed.mem_toList_iff (h : d.WellFormed) {m : OperatorMap} :
    (key, m) ∈ d.toList ↔ d.get? key = some m :=
  (OrderedMap.find?_eq_some_iff h.keys_sorted).symm

/-- **A key is listed iff some operator has a value there.**  That a listed key has one is due to
the shape of the document. -/
lemma WellFormed.mem_keys_iff (h : d.WellFormed) :
    key ∈ d.keys ↔ ∃ op, (d.value? key op).isSome = true := by
  constructor
  · intro hkey
    obtain ⟨⟨key, m⟩, hm, rfl⟩ := List.mem_map.mp hkey
    -- no key stands without operators
    obtain ⟨⟨op, v⟩, hp⟩ := h.exists_entry hm
    have hv : d.value? key op = some v := h.value?_eq_some_iff.mpr ⟨m, hm, hp⟩
    exact ⟨op, by simp [hv]⟩
  · rintro ⟨op, hop⟩
    obtain ⟨v, hv⟩ := Option.isSome_iff_exists.mp hop
    obtain ⟨m, hm, _⟩ := h.value?_eq_some_iff.mp hv
    exact List.mem_map.mpr ⟨(key, m), hm, rfl⟩

lemma value?_eq_some_iff_get? :
    d.value? key op = some v ↔ ∃ m, d.get? key = some m ∧ m.find? op = some v :=
  Option.bind_eq_some_iff

lemma WellFormed.value?_iff_exists_mem (h : d.WellFormed) (key : String) (op : Operator)
    (v : Value) : d.value? key op = some v ↔ ∃ m, (key, m) ∈ d.toList ∧ m.find? op = some v := by
  simp only [h.mem_toList_iff, value?_eq_some_iff_get?]

section

variable [PatternJudge]

lemma Produced.coherent (h : d.Produced) : d.Coherent where
  contains_iff_get? := fun key => Iff.rfl
  get?_iff_mem_keys := fun key => OrderedMap.isSome_find?_iff
  mem_keys_iff_value? := fun key => h.wellFormed.mem_keys_iff
  value?_iff_get? := fun key op v => value?_eq_some_iff_get?
  value?_iff_toList := h.wellFormed.value?_iff_exists_mem
  value?_iff_borrowingLoop := h.wellFormed.value?_iff_exists_mem
  value?_iff_consumingLoop := h.wellFormed.value?_iff_exists_mem
  toList_keys := ⟨rfl, rfl, rfl⟩
  count_keys := by
    intro key hkey
    have hnodup : d.keys.Nodup := OrderedMap.nodup_keys h.wellFormed.keys_sorted
    exact List.count_eq_one_of_mem hnodup hkey
  keys_ascend := h.valid.keys_ascend
  size_eq := ⟨(List.length_map ..).symm, rfl⟩
  isEmpty_iff := by
    change d.toList.isEmpty = true ↔ d.toList.map (·.1) = []
    simp

/-- **The views of a document agree.**  For documents that were built or compiled:

1. All views of a document show one map.
2. Two documents with the same values list the same keys, are gone through in the same way and have
   the same texts.

Values are the same if they are identical.  Of values that merely agree (`Value.agrees`) the last
clause would not hold: a zero agrees with the negative zero, and their texts differ. -/
theorem views_agree :
    (∀ d : Document, d.Produced → d.Coherent) ∧
    ∀ d e : Document, d.Produced → e.Produced →
      (∀ key op, d.value? key op = e.value? key op) →
      d.keys = e.keys ∧ d.toList = e.toList ∧ d.borrowingLoop = e.borrowingLoop ∧
        d.consumingLoop = e.consumingLoop ∧ d.render = e.render ∧
        d.toJson.render = e.toJson.render := by
  refine ⟨fun d h => h.coherent, ?_⟩
  intro d e hd he hvalues
  obtain rfl := hd.wellFormed.ext he.wellFormed hvalues
  exact ⟨rfl, rfl, rfl, rfl, rfl, rfl⟩

end

/-- Demands on an age in two steps, the first of which is taken back by the second. -/
def ageSteps : List Builder.Step := [
  .add ⟨"name", .eq, .string "a"⟩, .add ⟨"age", .lt, .int 99⟩, .add ⟨"age", .gte, .int 18⟩,
  .add ⟨"age", .lt, .int 65⟩]

/-- A record with the same demands, in another order. -/
def ageRecord : List Descriptor := [
  ⟨"from", "age", "$gte", .scalar (.signed .w32 18)⟩,
  ⟨"to", "age", "$lt", .scalar (.signed .w32 65)⟩,
  ⟨"name", "name", "$eq", .scalar (.string "a")⟩]

/-- A document that was built and one that was compiled, with the same values. -/
theorem views_agree_age :
    ∃ built compiled : Document,
      (Builder.new.run ageSteps).build = .ok built ∧ built.Produced ∧ built.Coherent ∧
      Options.standard.compile ageRecord = .ok compiled ∧ compiled.Produced ∧
      compiled.Coherent ∧
      (∀ key op, built.value? key op = compiled.value? key op) ∧
      built.keys = ["age", "name"] ∧ built.keys = compiled.keys ∧
      built.toList = compiled.toList ∧ built.render = compiled.render ∧
      built.toJson.render = compiled.toJson.render := by
  obtain ⟨hcoherent, hsame⟩ := views_agree
  let doc : Document :=
    ⟨⟨[("age", ⟨[(.lt, .int 65), (.gte, .int 18)]⟩), ("name", ⟨[(.eq, .string "a")]⟩)]⟩⟩
  have hbuilt : (Builder.new.run ageSteps).build = .ok doc := rfl
  have hcompiled : Options.standard.compile ageRecord = .ok doc := rfl
  have hproduced : doc.Produced := .inl ⟨ageSteps, hbuilt⟩
  have hproduced' : doc.Produced := .inr ⟨.standard, ageRecord, hcompiled⟩
  obtain ⟨hkeys, hlist, _, _, hrender, hjson⟩ := hsame doc doc hproduced hproduced' fun _ _ => rfl
  exact ⟨doc, doc, hbuilt, hproduced, hcoherent _ hproduced, hcompiled, hproduced',
    hcoherent _ hproduced', fun _ _ => rfl, rfl, hkeys, hlist, hrender, hjson⟩

end Document

end RecordQuery
