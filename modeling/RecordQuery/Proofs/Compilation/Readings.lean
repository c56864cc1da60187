import Mathlib.Data.List.TakeWhile
import RecordQuery.Proofs.Compilation.LastWrite

/-!
# Which values a compilation takes

The answer of a compilation does not tell which fields it has read.  The value of a field may be
overwritten by that of another one, it may be refused, and once a fault is parked no value makes any
difference.  Still the values are taken, and what is behind `Field.value` is done.

`Options.reading` is the compilation together with the fields whose values it takes, in order.
**`Options.reading_fst`** says which these are: the set fields before the first bad tag that is
looked at.  The builder plays no part, so a compilation reads on after a fault is parked.
-/

namespace RecordQuery.Options

section

variable [PatternJudge]

/-- Feeds the fields of a record into a builder, and keeps those whose value it takes. -/
def readingInto (o : Options) (b : Builder) :
    List Descriptor → List Descriptor × Except Fault Document
  | [] => ([], b.build)
  | d :: ds =>
    if !o.validateUnset && d.field.isUnset then o.readingInto b ds
    else match Operator.ofTag? d.tag with
      | none => ([], if b.isFailed then b.build else .error (.unsupportedTag d.tag d.key))
      | some op =>
        if d.field.isUnset then o.readingInto b ds
        else (o.readingInto (b.add ⟨d.key, op, d.field.value⟩) ds).map (d :: ·) id

/-- **A compilation with the fields that it reads.** -/
def reading (o : Options) (record : List Descriptor) :
    List Descriptor × Except Fault Document :=
  o.readingInto (Builder.new.checkPatterns o.checkPatterns) record

lemma readingInto_snd (o : Options) (b : Builder) (ds : List Descriptor) :
    (o.readingInto b ds).2 = o.compileInto b ds := by
  induction ds generalizing b with
  | nil => rfl
  | cons d ds ih =>
      rw [readingInto, compileInto]
      split
      · exact ih b
      · cases Operator.ofTag? d.tag with
        | none => rfl
        | some op =>
            by_cases hunset : d.field.isUnset = true
            · simp only [if_pos hunset]
              exact ih b
            · simp only [if_neg hunset]
              exact ih _

/-- **The answer is that of the compilation.** -/
theorem reading_snd (o : Options) (record : List Descriptor) :
    (o.reading record).2 = o.compile record :=
  readingInto_snd ..

end

/-- Whether a compilation goes on behind the field: its tag is not looked at or it is that of an
operator. -/
def passes (o : Options) (d : Descriptor) : Bool :=
  !o.validateUnset && d.field.isUnset || (Operator.ofTag? d.tag).isSome

lemma passes_eq_false_iff [PatternJudge] {o : Options} {d : Descriptor} :
    o.passes d = false ↔ o.Offends d (.unsupportedTag d.tag d.key) := by
  have htag : o.passes d = false ↔ (d.field.isUnset = true → o.validateUnset = true) ∧
      d.tag ∉ ["$eq", "$regex", "$gt", "$lt", "$gte", "$lte", "$in"] := by
    rw [← Operator.ofTag?_eq_none_iff, passes]
    cases o.validateUnset <;> cases d.field.isUnset <;> simp
  rw [htag]
  constructor
  · rintro ⟨hlook, htag⟩
    exact .tag hlook htag
  · rintro (⟨hlook, htag⟩ | _ | _)
    exact ⟨hlook, htag⟩

variable [PatternJudge]

lemma readingInto_fst (o : Options) (b : Builder) (ds : List Descriptor) :
    (o.readingInto b ds).1 = (ds.takeWhile o.passes).filter (·.isSet) := by
  induction ds generalizing b with
  | nil => rfl
  | cons d ds ih =>
      rw [readingInto, List.takeWhile_cons]
      by_cases hskip : (!o.validateUnset && d.field.isUnset) = true
      · have hunset : ¬ d.isSet = true := by
          simpa [Descriptor.isSet] using (Bool.and_eq_true_iff.mp hskip).2
        rw [if_pos hskip, passes, hskip, Bool.true_or, if_pos rfl, List.filter_cons_of_neg hunset]
        exact ih b
      · rw [if_neg hskip, passes, Bool.eq_false_iff.mpr hskip, Bool.false_or]
        cases Operator.ofTag? d.tag with
        | none => rfl
        | some op =>
            by_cases hunset : d.field.isUnset = true
            · have hset : ¬ d.isSet = true := by simp [Descriptor.isSet, hunset]
              rw [Option.isSome_some, if_pos rfl, List.filter_cons_of_neg hset]
              simp only [if_pos hunset]
              exact ih b
            · have hset : d.isSet = true := by simpa [Descriptor.isSet] using hunset
              rw [Option.isSome_some, if_pos rfl, List.filter_cons_of_pos hset]
              simp only [if_neg hunset]
              exact congrArg (d :: ·) (ih _)

/-- **The fields that are read** are the set ones before the first bad tag that is looked at. -/
theorem reading_fst (o : Options) (record : List Descriptor) :
    ∃ passed stopped, record = passed ++ stopped ∧
      (o.reading record).1 = passed.filter (·.isSet) ∧
      (∀ d ∈ passed, ¬ o.Offends d (.unsupportedTag d.tag d.key)) ∧
      ∀ d ∈ stopped.head?, o.Offends d (.unsupportedTag d.tag d.key) := by
  refine ⟨record.takeWhile o.passes, record.dropWhile o.passes,
    List.takeWhile_append_dropWhile.symm, readingInto_fst .., ?_, ?_⟩
  · intro d hd hbad
    have hpasses : o.passes d = true := List.mem_takeWhile_imp hd
    exact absurd (passes_eq_false_iff.mpr hbad) (by simp [hpasses])
  · intro d hd
    have hstops := List.head?_dropWhile_not o.passes record
    rw [Option.mem_def.mp hd] at hstops
    exact passes_eq_false_iff.mp hstops

lemma isSet_of_mem_reading {o : Options} {record : List Descriptor} {d : Descriptor}
    (h : d ∈ (o.reading record).1) : d.isSet = true := by
  rw [reading, readingInto_fst] at h
  exact (List.mem_filter.mp h).2

end RecordQuery.Options
