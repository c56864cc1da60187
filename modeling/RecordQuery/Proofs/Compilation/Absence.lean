import RecordQuery.Proofs.Compilation.Order
import RecordQuery.Proofs.Compilation.Readings
import RecordQuery.Proofs.Field.Absence

/-!
# Absent options in a compiled document

An absent option is unset and a compilation passes it over, so what `Field.value` writes for it
ought to be of no consequence.  It is of none as long as the option is the field itself.  Inside a
field that is set by something else, it is taken for a value: the empty sequence gets into the
document, and at the root of the value it decides the category (`Options.absent_compiled`).

`Options.compile_withAbsent_eq_iff` says exactly when that happens.  Another sequence is written for
all absent options of the record, which leaves the zero states, the categories and hence the
verdict of the matrix as they are (`Options.offence?_withAbsent`).  The document stays the same iff
no field whose value is kept reaches an absent option.

The document does not tell the whole story, because values are read that are not kept.
**`Options.absent_options_read`** puts the two together: which fields are read, which of them come
upon an absent option, which owe their category to one, and what of that a document shows.
-/

namespace RecordQuery

namespace Descriptor

/-- The descriptor with a value written for the absent options of its field. -/
def withAbsent (written : Value) (d : Descriptor) : Descriptor :=
  { d with field := d.field.withAbsent written }

lemma isFor_withAbsent (written : Value) (key : String) (op : Operator) (d : Descriptor) :
    (d.withAbsent written).isFor key op = d.isFor key op := by
  simp only [isFor, isSet, withAbsent, Field.isUnset_withAbsent]

lemma lastFor?_withAbsent (written : Value) (record : List Descriptor) (key : String)
    (op : Operator) :
    lastFor? (record.map (withAbsent written)) key op
      = (lastFor? record key op).map (withAbsent written) := by
  have hfor : (isFor key op) ∘ withAbsent written = isFor key op :=
    funext (isFor_withAbsent written key op)
  rw [lastFor?, lastFor?, List.filter_map, hfor, List.getLast?_map]

end Descriptor

/-- A sequence is as good as any other to the matrix and to the check of patterns. -/
lemma Condition.fault?_sequence [PatternJudge] (checks : Bool) (key : String) (op : Operator)
    (vs ws : List Value) :
    Condition.fault? checks ⟨key, op, .sequence vs⟩
      = Condition.fault? checks ⟨key, op, .sequence ws⟩ := by
  cases op <;> rfl

namespace Options

section

variable [PatternJudge]

/-- **Whether a field offends does not depend on the sequence** written for its absent options. -/
lemma offence?_withAbsent (o : Options) (items : List Value) (d : Descriptor) :
    o.offence? (d.withAbsent (.sequence items)) = o.offence? d := by
  have hfault : ∀ op, Condition.fault? o.checkPatterns
        ⟨d.key, op, (d.field.withAbsent (.sequence items)).value⟩
      = Condition.fault? o.checkPatterns ⟨d.key, op, d.field.value⟩ := by
    intro op
    rcases Field.value_withAbsent_sequence items d.field with heq | ⟨vs, ws, hvs, hws⟩
    · rw [heq]
    · rw [hvs, hws]
      exact Condition.fault?_sequence ..
  simp only [offence?, Descriptor.withAbsent, Field.isUnset_withAbsent, hfault]

/-- **A set field that is an absent option behind others** has the category of a sequence. -/
lemma offends_of_absent {o : Options} {d : Descriptor} {op : Operator} (hset : d.isSet = true)
    (htag : d.tag = op.tag) (habsent : d.field.content = .absent) (hop : op ≠ .isIn) :
    o.Offends d (.unsupportedForCategory d.key op .sequence) := by
  have hvalue : d.field.value = .sequence [] := by
    rw [← Field.value_content, habsent, Field.value]
  have hillegal : op ∉ d.field.value.category.legal := by
    rw [hvalue]
    exact mt List.mem_singleton.mp hop
  have hoffends := Offends.category (o := o) (Descriptor.isSet_iff.mp hset) htag hillegal
  rwa [hvalue] at hoffends

/-- **When a compiled document shows what is written for absent options.**  It is the same for
every sequence iff no field whose value stands in it reaches an absent option. -/
theorem compile_withAbsent_eq_iff (o : Options) (record : List Descriptor) (doc : Document)
    (h : o.compile record = .ok doc) :
    (∀ items, o.compile (record.map (Descriptor.withAbsent (.sequence items))) = .ok doc) ↔
      ∀ key op d, Descriptor.lastFor? record key op = some d → ¬ d.field.Reaches .absent := by
  have hcompiles : ∀ items, ∃ doc',
      o.compile (record.map (Descriptor.withAbsent (.sequence items))) = .ok doc' := by
    intro items
    refine compiles_iff.mpr fun d' hd' => ?_
    obtain ⟨d, hd, rfl⟩ := List.mem_map.mp hd'
    rw [offence?_withAbsent]
    exact compiles_iff.mp ⟨doc, h⟩ d hd
  have hvalue : ∀ items doc',
      o.compile (record.map (Descriptor.withAbsent (.sequence items))) = .ok doc' →
      ∀ key op, doc'.value? key op = (Descriptor.lastFor? record key op).map fun d =>
        (d.field.withAbsent (.sequence items)).value := by
    intro items doc' h' key op
    rw [value?_compile h', Descriptor.lastFor?_withAbsent, Option.map_map]
    rfl
  constructor
  · intro hsame key op d hd hreaches
    obtain ⟨items, hshows⟩ := Field.reaches_absent_iff.mp hreaches
    have hboth := hvalue items doc (hsame items) key op
    rw [value?_compile h, hd, Option.map_some, Option.map_some, Option.some.injEq] at hboth
    exact hshows hboth.symm
  · intro hnone items
    obtain ⟨doc', h'⟩ := hcompiles items
    rw [h']
    refine congrArg _ ((wellFormed_of_compile h').ext (wellFormed_of_compile h) fun key op => ?_)
    rw [hvalue items doc' h', value?_compile h]
    cases hd : Descriptor.lastFor? record key op with
    | none => rfl
    | some d =>
        rw [Option.map_some, Option.map_some,
          Field.value_withAbsent_of_not_reaches (hnone key op d hd)]

/-- **What a compilation has to do with absent options.**

1. A compilation reads the set fields before the first bad tag that is looked at, and no others.  It
   does not matter whether a fault is parked, or whether another field is declared for the same key
   and operator.
2. Reading a field comes upon an absent option iff the value of the field shows which sequence is
   written for it.
3. The category of a field depends on what is written iff the field is an absent option itself,
   except for references and options around it.
4. A field of this kind that is read is taken for a sequence, so its operator is refused unless it
   is `$in`.
5. A compiled document is the same for every sequence iff no field whose value stands in it reaches
   an absent option. -/
theorem absent_options_read (o : Options) (record : List Descriptor) :
    (o.reading record).2 = o.compile record ∧
    (∃ passed stopped, record = passed ++ stopped ∧
      (o.reading record).1 = passed.filter (!·.field.isUnset) ∧
      (∀ d ∈ passed, ¬ o.Offends d (.unsupportedTag d.tag d.key)) ∧
      ∀ d ∈ stopped.head?, o.Offends d (.unsupportedTag d.tag d.key)) ∧
    (∀ f : Field, f.Reaches .absent
      ↔ ∃ items, (f.withAbsent (.sequence items)).value ≠ f.value) ∧
    (∀ f : Field, f.content = .absent
      ↔ ∃ written, (f.withAbsent written).value.category ≠ f.value.category) ∧
    (∀ d ∈ (o.reading record).1, ∀ op : Operator, d.tag = op.tag → d.field.content = .absent →
      op ≠ .isIn → o.Offends d (.unsupportedForCategory d.key op .sequence)) ∧
    ∀ doc, o.compile record = .ok doc →
      ((∀ items, o.compile (record.map (Descriptor.withAbsent (.sequence items))) = .ok doc) ↔
        ∀ key op d, Descriptor.lastFor? record key op = some d → ¬ d.field.Reaches .absent) := by
  refine ⟨reading_snd o record, reading_fst o record, fun _ => Field.reaches_absent_iff,
    fun _ => Field.content_eq_absent_iff, ?_, fun doc => compile_withAbsent_eq_iff o record doc⟩
  intro d hd op htag habsent hop
  exact offends_of_absent (isSet_of_mem_reading hd) htag habsent hop

end

/-- A list of one absent option. -/
def absentTag : Descriptor := ⟨"tags", "tags", "$in", .list [.absent]⟩

/-- An absent option in one that is present. -/
def absentLimit : Descriptor := ⟨"limit", "limit", "$eq", .present .absent⟩

/-- **Set fields that reach an absent option.**  The empty sequence that is written for it stands in
the document of the first one, and it is what the matrix refuses in the second one. -/
theorem absent_compiled :
    (absentTag.field.isUnset = false ∧ absentTag.field.Reaches .absent ∧
      standard.compile [absentTag]
        = .ok ⟨⟨[("tags", ⟨[(.isIn, .sequence [.sequence []])]⟩)]⟩⟩) ∧
    absentLimit.field.isUnset = false ∧ absentLimit.field.Reaches .absent ∧
      standard.compile [absentLimit] = .error (.unsupportedForCategory "limit" .eq .sequence) := by
  refine ⟨⟨rfl, ?_, rfl⟩, rfl, ?_, rfl⟩
  · exact .part List.mem_cons_self (.here _)
  · exact .part List.mem_cons_self (.here _)

/-- A list without absent options, for the same key and operator as `absentTag`. -/
def presentTag : Descriptor := ⟨"names", "tags", "$in", .list [.present (.scalar (.string "a"))]⟩

/-- A list of one absent option under a key and an operator that the next field takes over, an
absent option that the matrix refuses, and a field behind them. -/
def absentRecord : List Descriptor :=
  [absentTag, presentTag, absentLimit, ⟨"page", "page", "$eq", .scalar (.signed .w32 1)⟩]

/-- All fields of `absentRecord` are read, the first one too, whose value would not be kept, and the
one behind the refusal.  The document of the first two fields shows no absent option. -/
theorem absent_options_read_record :
    (standard.reading absentRecord).1 = absentRecord ∧
      (standard.reading absentRecord).2 = standard.compile absentRecord ∧
      standard.Offends absentLimit (.unsupportedForCategory "limit" .eq .sequence) ∧
      ∃ doc, standard.compile (absentRecord.take 2) = .ok doc ∧
        (∀ items, standard.compile ((absentRecord.take 2).map
          (Descriptor.withAbsent (.sequence items))) = .ok doc) ∧
        ∀ key op d, Descriptor.lastFor? (absentRecord.take 2) key op = some d →
          ¬ d.field.Reaches .absent := by
  obtain ⟨hanswer, _, _, _, hrefused, _⟩ := absent_options_read standard absentRecord
  obtain ⟨_, _, _, _, _, hsame⟩ := absent_options_read standard (absentRecord.take 2)
  have hread : (standard.reading absentRecord).1 = absentRecord := rfl
  have hlimit : absentLimit ∈ (standard.reading absentRecord).1 := by
    rw [hread]
    simp [absentRecord]
  have hkept : ∀ key op d, Descriptor.lastFor? (absentRecord.take 2) key op = some d →
      ¬ d.field.Reaches .absent := by
    intro key op d hd hreaches
    -- both fields are for the same key and operator, so the second one is the last
    have hfor : absentTag.isFor key op = presentTag.isFor key op := rfl
    obtain rfl : d = presentTag := by
      rw [Descriptor.lastFor?, absentRecord, List.take_succ_cons, List.take_succ_cons,
        List.take_zero, List.filter_cons, List.filter_cons, hfor] at hd
      split at hd
      · exact (Option.some.inj hd).symm
      · cases hd
    obtain ⟨items, hshows⟩ := Field.reaches_absent_iff.mp hreaches
    exact hshows rfl
  exact ⟨hread, hanswer, hrefused _ hlimit .eq rfl rfl (by decide), _, rfl, (hsame _ rfl).mpr hkept,
    hkept⟩

end Options

end RecordQuery
