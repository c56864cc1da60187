import RecordQuery.Proofs.Compilation.Composition

/-!
# Stricter options

The two switches of `Options` turn checks on.  Turning one on may make a compilation fail, or fail
at an earlier field, and does nothing else: a document that is compiled under the stricter options
is the document of the weaker ones (`Options.compile_stricter`).

Behind it stands a fact about single fields, `Options.offence?_of_le`: what offends under weak
options offends under stricter ones as well, and in the same way.  Where a compilation fails is
expressed by `Options.FailsAt`, which speaks of prefixes of the record only.  A field is the place
of failure if the fields before it compile and the fields up to it do not.

Exempting unset fields from the look at their tags is the same as leaving them out of the record.
The zero state is asked for twice in a compilation, before and after the tag; the two questions
have one answer, so a field that is passed over by the first has no part in what follows.
-/

namespace RecordQuery

/-- What is refused without the check of patterns is refused in the same way with it. -/
lemma Condition.fault?_of_imp [PatternJudge] {checks checks' : Bool} {c : Condition} {e : Fault}
    (h : checks = true → checks' = true) (hc : c.fault? checks = some e) :
    c.fault? checks' = some e := by
  unfold fault? at hc ⊢
  split at hc
  · next hillegal => rw [if_pos hillegal, hc]
  · next hlegal =>
    rw [if_neg hlegal]
    cases checks with
    | false => simp at hc
    | true => rw [h rfl, ← hc]

namespace Options

/-- The second options turn on every check that the first ones turn on. -/
instance : LE Options where
  le o o' := (o.validateUnset = true → o'.validateUnset = true) ∧
    (o.checkPatterns = true → o'.checkPatterns = true)

instance (o o' : Options) : Decidable (o ≤ o') :=
  inferInstanceAs (Decidable (_ ∧ _))

section

variable [PatternJudge] {o o' : Options} {record : List Descriptor} {d : Descriptor} {e e' : Fault}
  {i j : Nat}

/-! ## One field -/

/-- **An offence stays the same offence** under stricter options. -/
lemma offence?_of_le (hle : o ≤ o') (h : o.offence? d = some e) : o'.offence? d = some e := by
  unfold offence? at h ⊢
  by_cases hu : d.field.isUnset = true
  · -- the field is unset, so only the look at its tag can have found something
    have hlook : o.validateUnset = true := by
      by_contra hno
      simp [hu, hno] at h
    have hlook' : o'.validateUnset = true := hle.1 hlook
    simpa [hu, hlook, hlook'] using h
  · cases htag : Operator.ofTag? d.tag with
    | none => simpa [hu, htag] using h
    | some op =>
        simp only [hu, htag, Bool.false_and, Bool.false_eq_true, if_false] at h ⊢
        exact Condition.fault?_of_imp hle.2 h

lemma offence?_exempt (checks : Bool) (d : Descriptor) :
    offence? ⟨false, checks⟩ d = if d.isSet then offence? ⟨true, checks⟩ d else none := by
  cases hu : d.field.isUnset with
  | true => simp [offence?, Descriptor.isSet, hu]
  | false => simp [offence?, Descriptor.isSet, hu]

lemma findSome?_exempt (checks : Bool) (record : List Descriptor) :
    record.findSome? (offence? ⟨false, checks⟩)
      = (record.filter (·.isSet)).findSome? (offence? ⟨true, checks⟩) := by
  induction record with
  | nil => rfl
  | cons d ds ih =>
      rw [List.findSome?_cons, offence?_exempt, ih]
      cases hs : d.isSet with
      | true => rw [List.filter_cons_of_pos hs, List.findSome?_cons, if_pos rfl]
      | false => simp [hs]

/-! ## The place of failure -/

/-- **The compilation fails at the field with index `i`**: the fields before it compile, and the
fault is the answer for the fields up to it. -/
structure FailsAt (o : Options) (record : List Descriptor) (i : Nat) (e : Fault) : Prop where
  compiles_before : ∃ doc, o.compile (record.take i) = .ok doc
  fails_through : o.compile (record.take (i + 1)) = .error e

/-- The field at the place of failure is the first one that offends. -/
lemma failsAt_iff :
    o.FailsAt record i e ↔
      (∀ d ∈ record.take i, o.offence? d = none) ∧
        ∃ d, record[i]? = some d ∧ o.offence? d = some e := by
  have hthrough : (∀ d ∈ record.take i, o.offence? d = none) →
      (o.compile (record.take (i + 1)) = .error e
        ↔ ∃ d, record[i]? = some d ∧ o.offence? d = some e) := by
    intro hbefore
    rw [compile_eq_error_iff, List.take_add_one, List.findSome?_append,
      List.findSome?_eq_none_iff.mpr hbefore, Option.none_or]
    cases record[i]? <;> simp
  constructor
  · rintro ⟨hbefore, hfails⟩
    have hfine := compiles_iff.mp hbefore
    exact ⟨hfine, (hthrough hfine).mp hfails⟩
  · rintro ⟨hfine, hoffends⟩
    exact ⟨compiles_iff.mpr hfine, (hthrough hfine).mpr hoffends⟩

/-- **A compilation that fails, fails at one of the fields**, and the fault there is the answer for
the whole record. -/
lemma compile_eq_error_iff_failsAt : o.compile record = .error e ↔ ∃ i, o.FailsAt record i e := by
  constructor
  · intro h
    obtain ⟨before, d, behind, rfl, hd, hbefore⟩ :=
      List.findSome?_eq_some_iff.mp (compile_eq_error_iff.mp h)
    refine ⟨before.length, failsAt_iff.mpr ⟨?_, d, ?_, hd⟩⟩
    · rwa [List.take_left]
    · simp
  · rintro ⟨i, _, hfails⟩
    rw [← List.take_append_drop (i + 1) record]
    exact compile_append_of_error hfails _

lemma FailsAt.le_of_offence? (h : o.FailsAt record i e) (hd : record[j]? = some d)
    (hoffends : o.offence? d = some e') : i ≤ j := by
  by_contra hlt
  have hmem : d ∈ record.take i := by
    refine List.mem_of_getElem? (i := j) ?_
    rw [List.getElem?_take_of_lt (by omega), hd]
  have hnone := (failsAt_iff.mp h).1 d hmem
  rw [hoffends] at hnone
  exact absurd hnone (by simp)

/-- Under stricter options a compilation fails at the same field in the same way, or else before
it. -/
lemma FailsAt.of_le (hle : o ≤ o') (h : o.FailsAt record i e) :
    ∃ j e', o'.FailsAt record j e' ∧ j ≤ i ∧ (j = i → e' = e) := by
  obtain ⟨_, d, hd, hoffends⟩ := failsAt_iff.mp h
  have hoffends' : o'.offence? d = some e := offence?_of_le hle hoffends
  have hfails : ∃ e', o'.compile record = .error e' := by
    simp only [compile_eq_error_iff, ← Option.isSome_iff_exists, List.findSome?_isSome_iff]
    exact ⟨d, List.mem_of_getElem? hd, by rw [hoffends']; rfl⟩
  obtain ⟨e', he'⟩ := hfails
  obtain ⟨j, hj⟩ := compile_eq_error_iff_failsAt.mp he'
  refine ⟨j, e', hj, hj.le_of_offence? hd hoffends', ?_⟩
  rintro rfl
  obtain ⟨_, d', hd', hat⟩ := failsAt_iff.mp hj
  obtain rfl := Option.some.inj (hd.symm.trans hd')
  exact Option.some.inj (hat.symm.trans hoffends')

/-- **Options only tighten.**

1. With unset fields exempt, a record compiles like the record of its set fields does without the
   exemption.
2. What compiles under stricter options compiles to the same document under weaker ones.
3. A compilation that fails has a place of failure, and under stricter options the place is the
   same, with the same fault, or an earlier one. -/
theorem compile_stricter (record : List Descriptor) :
    (∀ checks, compile ⟨false, checks⟩ record
      = compile ⟨true, checks⟩ (record.filter (·.isSet))) ∧
    ∀ o o' : Options, o ≤ o' →
      (∀ doc, o'.compile record = .ok doc → o.compile record = .ok doc) ∧
      (∀ e, o.compile record = .error e ↔ ∃ i, o.FailsAt record i e) ∧
      ∀ i e, o.FailsAt record i e →
        ∃ j e', o'.FailsAt record j e' ∧ j ≤ i ∧ (j = i → e' = e) := by
  constructor
  · intro checks
    rw [compile_eq, compile_eq, findSome?_exempt, Descriptor.filterMap_condition?_filter_isSet]
  · intro o o' hle
    refine ⟨?_, fun e => compile_eq_error_iff_failsAt, fun i e => FailsAt.of_le hle⟩
    intro doc h
    obtain ⟨hfine, hdoc⟩ := compile_eq_ok_iff.mp h
    refine compile_eq_ok_iff.mpr ⟨fun d hd => ?_, hdoc⟩
    cases hoffends : o.offence? d with
    | none => rfl
    | some e =>
        have hnone := hfine d hd
        rw [offence?_of_le hle hoffends] at hnone
        exact absurd hnone (by simp)

end

/-- An unset field with a bad tag before a set field whose operator is illegal. -/
def placeFlag : List Descriptor :=
  ⟨"place", "place", "$near", .scalar (.string "")⟩ :: flagAbove

/-- With the tags of unset fields looked at, the fault is found one field earlier; a record without
fault stays as it is. -/
theorem compile_stricter_place :
    let weak : Options := ⟨false, false⟩
    let fault : Fault := .unsupportedForCategory "flag" .gt .boolean
    weak ≤ standard ∧
      weak.compile placeFlag = standard.compile flagAbove ∧
      (∃ doc, standard.compile ageFrom = .ok doc ∧ weak.compile ageFrom = .ok doc) ∧
      weak.FailsAt placeFlag 1 fault ∧
      ∃ j e', standard.FailsAt placeFlag j e' ∧ j ≤ 1 ∧ (j = 1 → e' = fault) := by
  intro weak fault
  have hle : weak ≤ standard := by decide
  have hplace : weak.FailsAt placeFlag 1 fault := ⟨⟨_, rfl⟩, rfl⟩
  obtain ⟨hexempt, hrest⟩ := compile_stricter placeFlag
  obtain ⟨_, _, hfails⟩ := hrest weak standard hle
  obtain ⟨hsame, _⟩ := (compile_stricter ageFrom).2 weak standard hle
  exact ⟨hle, hexempt false, ⟨_, rfl, hsame _ rfl⟩, hplace, hfails 1 fault hplace⟩

end Options

end RecordQuery
