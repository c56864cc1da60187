import Mathlib.Data.List.Dedup
import RecordQuery.Proofs.Compilation.FirstFault

/-!
# What a compiled document says about its record

A record may declare the same key for several fields, and even the same key and operator.  This
file says what becomes of such collisions, and of everything else in the record, when it compiles.

* `Descriptor.lastFor?` — the last set field of a record that is declared for a key and an operator.
* `Options.LastWrites` — the document holds the values of these fields and nothing else; unset
  fields leave no trace, and a further field changes nothing but the value under its own key and
  operator.
* `Options.compile_lastWrites` — every compiled document is of this kind.

The document of a record is the document of its conditions (`Options.compile_eq_ok_iff`), so what
has to be shown is that the list of conditions and the list of set fields tell the same story.
-/

namespace RecordQuery

namespace Descriptor

/-- The field holds something. -/
def isSet (d : Descriptor) : Bool := !d.field.isUnset

/-- The field is set and declared for the key and the operator. -/
def isFor (key : String) (op : Operator) (d : Descriptor) : Bool :=
  d.isSet && (d.key == key && d.tag == op.tag)

/-- The last set field, in declaration order, for the key and the operator. -/
def lastFor? (record : List Descriptor) (key : String) (op : Operator) : Option Descriptor :=
  (record.filter (·.isFor key op)).getLast?

lemma isSet_iff {d : Descriptor} : d.isSet ↔ d.field.isUnset = false := by
  simp [isSet]

lemma condition?_of_unset {d : Descriptor} (h : d.isSet = false) : d.condition? = none := by
  have hu : d.field.isUnset = true := by simpa [isSet] using h
  rw [condition?, if_pos hu]

lemma condition?_of_set {d : Descriptor} (h : d.isSet = true) :
    d.condition? = (Operator.ofTag? d.tag).map fun op => ⟨d.key, op, d.field.value⟩ := by
  have hu : ¬ d.field.isUnset = true := by simpa [isSet] using h
  rw [condition?, if_neg hu]

/-- Conditions about a key and an operator come from the fields declared for them, one from each,
with its value. -/
lemma value_conditions_at (record : List Descriptor) (key : String) (op : Operator) :
    ((record.filterMap condition?).filter (·.isAt key op)).map (·.value)
      = (record.filter (·.isFor key op)).map (·.field.value) := by
  induction record with
  | nil => rfl
  | cons d ds ih =>
      cases hs : d.isSet with
      | false =>
          have hfor : ¬ d.isFor key op = true := by simp [isFor, hs]
          rw [List.filterMap_cons_none (condition?_of_unset hs), List.filter_cons_of_neg hfor, ih]
      | true =>
          cases htag : Operator.ofTag? d.tag with
          | none =>
              have hc : d.condition? = none := by rw [condition?_of_set hs, htag, Option.map_none]
              have hne : d.tag ≠ op.tag := by
                intro heq
                rw [heq, Operator.ofTag?_tag] at htag
                exact Option.some_ne_none op htag
              have hfor : ¬ d.isFor key op = true := by simp [isFor, hne]
              rw [List.filterMap_cons_none hc, List.filter_cons_of_neg hfor, ih]
          | some op' =>
              have hc := condition?_of_set hs
              rw [htag, Option.map_some] at hc
              have hop : (d.tag == op.tag) = (op' == op) := by
                rw [Operator.ofTag?_eq_some_iff.mp htag]
                exact Bool.eq_iff_iff.mpr (by
                  simp only [beq_iff_eq]
                  exact ⟨Operator.tag_injective, congrArg Operator.tag⟩)
              have hfor : d.isFor key op
                  = Condition.isAt key op ⟨d.key, op', d.field.value⟩ := by
                rw [isFor, hs, hop, Bool.true_and, Condition.isAt]
              rw [List.filterMap_cons_some hc]
              by_cases hat : d.isFor key op = true
              · rw [List.filter_cons_of_pos hat, List.filter_cons_of_pos (hfor ▸ hat),
                  List.map_cons, List.map_cons, ih]
              · rw [List.filter_cons_of_neg hat, List.filter_cons_of_neg (hfor ▸ hat), ih]

/-- The last condition about a key and an operator has the value of the last field for them. -/
lemma lastAt?_conditions (record : List Descriptor) (key : String) (op : Operator) :
    Condition.lastAt? (record.filterMap condition?) key op
      = (lastFor? record key op).map (·.field.value) := by
  rw [Condition.lastAt?, value_conditions_at, List.getLast?_map, lastFor?]

lemma filterMap_condition?_filter_isSet (record : List Descriptor) :
    (record.filter (·.isSet)).filterMap condition? = record.filterMap condition? := by
  induction record with
  | nil => rfl
  | cons d ds ih =>
      cases hs : d.isSet with
      | false =>
          rw [List.filter_cons_of_neg (by simp [hs]), ih,
            List.filterMap_cons_none (condition?_of_unset hs)]
      | true =>
          rw [List.filter_cons_of_pos hs]
          simp only [List.filterMap_cons, ih]

/-- Taking a field out of a record leaves the last field for any other pair in place. -/
lemma lastFor?_erase {before behind : List Descriptor} {d : Descriptor} {key : String}
    {op : Operator} (h : ¬(d.key = key ∧ d.tag = op.tag)) :
    lastFor? (before ++ d :: behind) key op = lastFor? (before ++ behind) key op := by
  have hfor : ¬ d.isFor key op = true := by
    simp only [isFor, Bool.and_eq_true, beq_iff_eq]
    exact fun hd => h hd.2
  rw [lastFor?, lastFor?, List.filter_append, List.filter_cons_of_neg hfor, ← List.filter_append]

end Descriptor

namespace Options

section

variable [PatternJudge] {o : Options} {record : List Descriptor} {doc : Document}

/-- The keys of the conditions are the keys of the set fields: a set field that does not offend has
the tag of an operator. -/
lemma key_conditions (h : ∀ d ∈ record, o.offence? d = none) :
    (record.filterMap Descriptor.condition?).map (·.key)
      = (record.filter (·.isSet)).map (·.key) := by
  induction record with
  | nil => rfl
  | cons d ds ih =>
      have ih := ih fun d' hd' => h d' (List.mem_cons_of_mem d hd')
      cases hs : d.isSet with
      | false =>
          rw [List.filterMap_cons_none (Descriptor.condition?_of_unset hs), ih,
            List.filter_cons_of_neg (by simp [hs])]
      | true =>
          have hu : d.field.isUnset = false := Descriptor.isSet_iff.mp hs
          have hd := h d List.mem_cons_self
          cases htag : Operator.ofTag? d.tag with
          | none => simp [offence?, hu, htag] at hd
          | some op =>
              have hc := Descriptor.condition?_of_set hs
              rw [htag, Option.map_some] at hc
              rw [List.filterMap_cons_some hc, List.filter_cons_of_pos hs, List.map_cons,
                List.map_cons, ih]

/-- Fields of a record that compiles compile by themselves. -/
lemma compile_of_subset {part : List Descriptor} (h : o.compile record = .ok doc)
    (hpart : ∀ d ∈ part, d ∈ record) :
    o.compile part = .ok (.ofConditions (part.filterMap Descriptor.condition?)) := by
  obtain ⟨hfine, _⟩ := compile_eq_ok_iff.mp h
  exact compile_eq_ok_iff.mpr ⟨fun d hd => hfine d (hpart d hd), rfl⟩

/-- **The document holds the last writes of the record**, all of them and nothing else. -/
structure LastWrites (o : Options) (record : List Descriptor) (doc : Document) : Prop where
  /-- Under a key and an operator stands the value of the last set field for them, if there is
  one. -/
  value? : ∀ key op,
    doc.value? key op = (Descriptor.lastFor? record key op).map (·.field.value)
  /-- The keys are those of the set fields. -/
  mem_keys_iff : ∀ key, key ∈ doc.keys ↔ ∃ d ∈ record, d.field.isUnset = false ∧ d.key = key
  /-- No key is listed twice. -/
  nodup_keys : doc.keys.Nodup
  /-- There are as many keys as the set fields have different ones. -/
  size : doc.size = ((record.filter (·.isSet)).map (·.key)).dedup.length
  /-- Without its unset fields the record compiles to the same document. -/
  without_unset : o.compile (record.filter (·.isSet)) = .ok doc
  /-- Without one of its fields the record still compiles, and only what stands under the key and
  the operator of that field may differ. -/
  without_field : ∀ before d behind, record = before ++ d :: behind →
    ∃ doc', o.compile (before ++ behind) = .ok doc' ∧
      ∀ key op, ¬(d.key = key ∧ d.tag = op.tag) → doc.value? key op = doc'.value? key op

lemma value?_compile (h : o.compile record = .ok doc) (key : String) (op : Operator) :
    doc.value? key op = (Descriptor.lastFor? record key op).map (·.field.value) := by
  obtain ⟨_, rfl⟩ := compile_eq_ok_iff.mp h
  rw [Document.value?_ofConditions, Descriptor.lastAt?_conditions]

lemma mem_keys_compile (h : o.compile record = .ok doc) (key : String) :
    key ∈ doc.keys ↔ key ∈ (record.filter (·.isSet)).map (·.key) := by
  obtain ⟨hfine, rfl⟩ := compile_eq_ok_iff.mp h
  rw [Document.mem_keys_ofConditions, key_conditions hfine]

lemma nodup_keys_compile (h : o.compile record = .ok doc) : doc.keys.Nodup := by
  obtain ⟨_, rfl⟩ := compile_eq_ok_iff.mp h
  exact OrderedMap.nodup_keys (Document.wellFormed_ofConditions _).keys_sorted

/-- **A compiled document holds the last writes of its record.** -/
theorem compile_lastWrites (o : Options) (record : List Descriptor) (doc : Document)
    (h : o.compile record = .ok doc) : o.LastWrites record doc where
  value? := value?_compile h
  mem_keys_iff := by
    intro key
    rw [mem_keys_compile h]
    simp only [List.mem_map, List.mem_filter, Descriptor.isSet_iff, and_assoc]
  nodup_keys := nodup_keys_compile h
  size := by
    have hperm : doc.keys.Perm ((record.filter (·.isSet)).map (·.key)).dedup := by
      refine (List.perm_ext_iff_of_nodup (nodup_keys_compile h) (List.nodup_dedup _)).mpr ?_
      intro key
      rw [List.mem_dedup, mem_keys_compile h]
    calc doc.size = doc.keys.length := (List.length_map ..).symm
      _ = _ := hperm.length_eq
  without_unset := by
    rw [compile_of_subset h fun d hd => (List.mem_filter.mp hd).1,
      Descriptor.filterMap_condition?_filter_isSet]
    exact congrArg _ (compile_eq_ok_iff.mp h).2.symm
  without_field := by
    rintro before d behind rfl
    have hpart : ∀ d' ∈ before ++ behind, d' ∈ before ++ d :: behind := by
      intro d' hd'
      rcases List.mem_append.mp hd' with hd' | hd'
      · exact List.mem_append_left _ hd'
      · exact List.mem_append_right _ (List.mem_cons_of_mem d hd')
    have h' := compile_of_subset h hpart
    refine ⟨_, h', ?_⟩
    intro key op hne
    rw [value?_compile h, value?_compile h', Descriptor.lastFor?_erase hne]

end

/-- A repeated pair, a sibling operator and an unset field in one record. -/
theorem compile_lastWrites_repeated_pair :
    let record : List Descriptor := [
      ⟨"from", "age", "$gte", .scalar (.signed .w32 18)⟩,
      ⟨"name", "name", "$eq", .scalar (.string "")⟩,
      ⟨"to", "age", "$lt", .scalar (.signed .w32 65)⟩,
      ⟨"least", "age", "$gte", .scalar (.signed .w32 21)⟩]
    let doc : Document := ⟨⟨[("age", ⟨[(.lt, .int 65), (.gte, .int 21)]⟩)]⟩⟩
    standard.compile record = .ok doc ∧ standard.LastWrites record doc :=
  ⟨rfl, compile_lastWrites standard _ _ rfl⟩

end Options

end RecordQuery
