import RecordQuery.Compilation
import RecordQuery.Proofs.Builder.Acceptance

/-!
# The first fault of a record

A compilation can fail in four ways, and the ways are found out by two mechanisms.  A tag that
belongs to no operator ends the compilation at once; an illegal operator or an unusable pattern is
parked in the builder, and the fields that follow are still gone through.  This file shows that
none of that can be seen from outside.

* `Options.offence?` — what is wrong with a field taken by itself, without builder and without the
  other fields.
* `Options.Offends` — the same as a rule, with the tags and the legal operators written out.
  **`Options.offence?_eq_some_iff`** joins the two.
* **`Options.compile_eq`** — a compilation answers with the offence of the first field that has
  one, and else with the document of all conditions.  Every statement about compilations starts
  from here.
* `Options.compile_eq_error_iff_first_offence` — the law of the first fault.

The invariant behind `compile_eq` is `Options.Ready`: as long as no field has offended, the builder
has no fault.  As soon as one is parked, `compileInto_of_failed` says that it is the answer,
whatever follows.
-/

namespace RecordQuery

/-- The condition that the field contributes.  An unset field contributes none, nor does a field
whose tag belongs to no operator. -/
def Descriptor.condition? (d : Descriptor) : Option Condition :=
  if d.field.isUnset then none
  else (Operator.ofTag? d.tag).map fun op => ⟨d.key, op, d.field.value⟩

namespace Options

variable [PatternJudge]

open PatternJudge (judge)

/-- **The offence of a field.**  Unset fields are exempt from the look at the tag if the options
say so, and always from what concerns their value. -/
def offence? (o : Options) (d : Descriptor) : Option Fault :=
  if d.field.isUnset && !o.validateUnset then none
  else match Operator.ofTag? d.tag with
    | none => some (.unsupportedTag d.tag d.key)
    | some op =>
      if d.field.isUnset then none
      else Condition.fault? o.checkPatterns ⟨d.key, op, d.field.value⟩

lemma fault?_of_condition? {o : Options} {d : Descriptor} {c : Condition}
    (h : o.offence? d = none) (hc : d.condition? = some c) : c.fault? o.checkPatterns = none := by
  by_cases hu : d.field.isUnset = true
  · rw [Descriptor.condition?, if_pos hu] at hc
    exact absurd hc (Option.some_ne_none c).symm
  · rw [Descriptor.condition?, if_neg hu] at hc
    obtain ⟨op, htag, rfl⟩ := Option.map_eq_some_iff.mp hc
    simpa [offence?, hu, htag] using h

/-- **The invariant of a compilation** before the first offence. -/
structure Ready (o : Options) (b : Builder) : Prop where
  fault : b.fault = none
  checksPatterns : b.checksPatterns = o.checkPatterns

lemma ready_new (o : Options) : o.Ready (Builder.new.checkPatterns o.checkPatterns) := ⟨rfl, rfl⟩

variable {o : Options} {b : Builder} {d : Descriptor} {e : Fault}

/-- **A parked fault is the answer**, whatever the fields that follow have to offer.  A bad tag
among them ends the compilation, but with the parked fault. -/
lemma compileInto_of_failed (h : b.fault = some e) (ds : List Descriptor) :
    o.compileInto b ds = .error e := by
  induction ds with
  | nil => exact Builder.build_of_failed h
  | cons d ds ih =>
      have hfailed : b.isFailed = true := Builder.isFailed_iff.mpr ⟨e, h⟩
      rw [compileInto, hfailed, Builder.build_of_failed h]
      split
      · exact ih
      · split
        · rfl
        · split
          · exact ih
          · rw [Builder.add_of_failed h]
            exact ih

/-- The step at a field that offends: the answer is settled, be it at once or by parking. -/
lemma compileInto_cons_of_offence (hb : o.Ready b) (h : o.offence? d = some e)
    (ds : List Descriptor) : o.compileInto b (d :: ds) = .error e := by
  have hpass : b.isFailed = false := by simp only [Builder.isFailed, hb.fault, Option.isSome_none]
  unfold offence? at h
  rw [Bool.and_comm] at h
  rw [compileInto]
  split at h
  · exact absurd h (by simp)
  · next hlook =>
    rw [if_neg hlook]
    cases htag : Operator.ofTag? d.tag with
    | none =>
        simp only [htag, Option.some.injEq] at h
        simp only [hpass, Bool.false_eq_true, if_false, h]
    | some op =>
        simp only [htag] at h
        by_cases hu : d.field.isUnset = true
        · simp [hu] at h
        · rw [if_neg hu] at h
          have hadd := Builder.add_of_refused hb.fault (hb.checksPatterns ▸ h)
          simp only [if_neg hu]
          exact compileInto_of_failed (by rw [hadd]) ds

/-- The step at a field that does not offend: its condition, if it has one, goes in. -/
lemma compileInto_cons_of_fine (hb : o.Ready b) (h : o.offence? d = none) (ds : List Descriptor) :
    ∃ b', o.compileInto b (d :: ds) = o.compileInto b' ds ∧ o.Ready b' ∧
      b'.document = b.document.insertAll d.condition?.toList := by
  unfold offence? at h
  rw [Bool.and_comm] at h
  rw [compileInto]
  by_cases hu : d.field.isUnset = true
  · have hnone : d.condition? = none := by rw [Descriptor.condition?, if_pos hu]
    refine ⟨b, ?_, hb, by rw [hnone]; rfl⟩
    split
    · rfl
    · next hlook =>
      rw [if_neg hlook] at h
      cases htag : Operator.ofTag? d.tag with
      | none => simp [htag] at h
      | some op => rfl
  · have hlook : ¬((!o.validateUnset && d.field.isUnset) = true) := by simp [hu]
    rw [if_neg hlook] at h ⊢
    cases htag : Operator.ofTag? d.tag with
    | none => simp [htag] at h
    | some op =>
        simp only [htag, if_neg hu] at h
        have hadd := Builder.add_of_accepted hb.fault (hb.checksPatterns ▸ h)
        have hsome : d.condition? = some ⟨d.key, op, d.field.value⟩ := by
          rw [Descriptor.condition?, if_neg hu, htag, Option.map_some]
        simp only [if_neg hu]
        refine ⟨_, rfl, ⟨?_, ?_⟩, ?_⟩
        · rw [hadd]
          exact hb.fault
        · rw [Builder.checksPatterns_add]
          exact hb.checksPatterns
        · rw [hadd, hsome]
          rfl

/-- A whole compilation, from any builder that has no fault. -/
lemma compileInto_eq (hb : o.Ready b) (ds : List Descriptor) :
    o.compileInto b ds = faultOr (ds.findSome? o.offence?)
      (b.document.insertAll (ds.filterMap Descriptor.condition?)) := by
  induction ds generalizing b with
  | nil =>
      exact Builder.build_of_fine hb.fault
  | cons d ds ih =>
      rw [List.findSome?_cons]
      cases h : o.offence? d with
      | some e => exact compileInto_cons_of_offence hb h ds
      | none =>
          obtain ⟨b', hstep, hb', hdoc⟩ := compileInto_cons_of_fine hb h ds
          rw [hstep, ih hb', hdoc]
          simp only [← Document.insertAll_append]
          cases hc : d.condition? with
          | none => rw [List.filterMap_cons_none hc, Option.toList_none, List.nil_append]
          | some c => rw [List.filterMap_cons_some hc, Option.toList_some, List.singleton_append]

/-- **What a compilation answers**: the first offence in the order of the fields, or else the
document of the conditions. -/
theorem compile_eq (o : Options) (record : List Descriptor) :
    o.compile record = faultOr (record.findSome? o.offence?)
      (.ofConditions (record.filterMap Descriptor.condition?)) :=
  compileInto_eq o.ready_new record

lemma compile_eq_error_iff {record : List Descriptor} :
    o.compile record = .error e ↔ record.findSome? o.offence? = some e := by
  rw [compile_eq, faultOr_eq_error_iff]

lemma compile_eq_ok_iff {record : List Descriptor} {doc : Document} :
    o.compile record = .ok doc ↔ (∀ d ∈ record, o.offence? d = none) ∧
      doc = .ofConditions (record.filterMap Descriptor.condition?) := by
  rw [compile_eq, faultOr_eq_ok_iff, List.findSome?_eq_none_iff]

/-! ## The rule of offences -/

/-- **How a field offends**, and by which fault that is told. -/
inductive Offends (o : Options) (d : Descriptor) : Fault → Prop
  /-- The tag is none of the seven.  With an unset field this counts only if the options say so. -/
  | tag (hlook : d.field.isUnset = true → o.validateUnset = true)
      (htag : d.tag ∉ ["$eq", "$regex", "$gt", "$lt", "$gte", "$lte", "$in"]) :
      Offends o d (.unsupportedTag d.tag d.key)
  /-- The operator is not among the legal ones for the value. -/
  | category {op : Operator} (hset : d.field.isUnset = false) (htag : d.tag = op.tag)
      (hillegal : op ∉ d.field.value.category.legal) :
      Offends o d (.unsupportedForCategory d.key op d.field.value.category)
  /-- The judge rejects the pattern, and patterns are checked. -/
  | pattern {pattern : String} {cause : PatternJudge.Cause} (hset : d.field.isUnset = false)
      (htag : d.tag = "$regex") (hchecks : o.checkPatterns = true)
      (hvalue : d.field.value = .string pattern) (hjudge : judge pattern = .error cause) :
      Offends o d (.invalidPattern d.key cause)

lemma offence?_of_offends (h : o.Offends d e) : o.offence? d = some e := by
  cases h with
  | tag hlook htag =>
      have hnone := Operator.ofTag?_eq_none_iff.mpr htag
      cases hu : d.field.isUnset with
      | true => simp [offence?, hlook hu, hnone]
      | false => simp [offence?, hu, hnone]
  | @category op hset htag hillegal =>
      have hop := Operator.ofTag?_eq_some_iff.mpr htag
      simp [offence?, hset, hop, Condition.fault?, Condition.category,
        Category.allows_iff_mem_legal, hillegal]
  | pattern hset htag hchecks hvalue hjudge =>
      have hop : Operator.ofTag? d.tag = some .regex := Operator.ofTag?_eq_some_iff.mpr htag
      simp [offence?, hset, hop, hchecks, hvalue, Condition.fault?, Condition.category,
        Value.category, Category.allows, Condition.patternFault?, hjudge]

lemma offends_of_fault? {op : Operator} (hset : d.field.isUnset = false) (htag : d.tag = op.tag)
    (h : Condition.fault? o.checkPatterns ⟨d.key, op, d.field.value⟩ = some e) :
    o.Offends d e := by
  unfold Condition.fault? at h
  split at h
  · next hillegal =>
    obtain rfl := Option.some.inj h
    refine .category hset htag ?_
    rw [← Category.allows_iff_mem_legal]
    simpa [Condition.category] using hillegal
  · split at h
    · next hchecks =>
      obtain ⟨rfl, pattern, cause, hvalue, hjudge, rfl⟩ := Condition.patternFault?_eq_some_iff.mp h
      exact .pattern hset htag hchecks hvalue hjudge
    · exact absurd h nofun

/-- **The offence of a field is the fault by which it offends.** -/
theorem offence?_eq_some_iff : o.offence? d = some e ↔ o.Offends d e := by
  refine ⟨fun h => ?_, offence?_of_offends⟩
  unfold offence? at h
  split at h
  · exact absurd h nofun
  · next hlook =>
    split at h
    · next htag =>
      obtain rfl := Option.some.inj h
      refine .tag (fun hu => ?_) (Operator.ofTag?_eq_none_iff.mp htag)
      simpa [hu] using hlook
    · next op htag =>
      split at h
      · exact absurd h nofun
      · next hset =>
        exact offends_of_fault? (by simpa using hset) (Operator.ofTag?_eq_some_iff.mp htag) h

/-- **The law of the first fault.**

1. A record fails to compile iff one of its fields offends.
2. The answer is then the fault of the field that comes first among those, however the fields
   behind it offend.
3. A field offends in one way at most. -/
theorem compile_eq_error_iff_first_offence (o : Options) (record : List Descriptor) :
    ((∃ e, o.compile record = .error e) ↔ ∃ d ∈ record, ∃ e, o.Offends d e) ∧
    (∀ e, o.compile record = .error e ↔ ∃ before d behind, record = before ++ d :: behind ∧
      o.Offends d e ∧ ∀ d' ∈ before, ∀ e', ¬ o.Offends d' e') ∧
    ∀ d e e', o.Offends d e → o.Offends d e' → e = e' := by
  simp only [compile_eq_error_iff, ← offence?_eq_some_iff, ← ne_eq,
    ← Option.eq_none_iff_forall_ne_some]
  refine ⟨?_, fun e => List.findSome?_eq_some_iff, ?_⟩
  · simp only [← Option.isSome_iff_exists]
    exact List.findSome?_isSome_iff
  · intro d e e' h h'
    exact Option.some.inj (h.symm.trans h')

end Options

end RecordQuery
