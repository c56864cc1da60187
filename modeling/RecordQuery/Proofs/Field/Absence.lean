import RecordQuery.Field
import RecordQuery.Proofs.Parts

/-!
# Absent options inside a field

An absent option has no value, yet `Field.value` writes something in its place.  This file says
which fields that concerns.

* `Field.Reaches` — taking the value of a field comes upon another one.
* `Field.withAbsent` — the field with its absent options given a value.  They stay unset, so this
  only changes what is written for them.
* **`Field.value_withAbsent_eq_iff`** — the value of a field depends on what is written for absent
  options iff it reaches one.
* `Field.value_withAbsent_sequence` — as long as a sequence is written for them, no value
  changes its kind.
* `Field.content_eq_absent_iff` — which fields owe their category to what is written.

The unset state protects an absent option that is a field by itself, or behind references.  It
does not protect the ones in an option that is present, in a list, in a slice, or in an array
that has a set element as well.
-/

namespace RecordQuery.Field

/-! ## Parts -/

/-- **The parts of a field**, of whose values its own value is made. -/
def parts : Field → List Field
  | scalar _ | custom _ _ | absent => []
  | reference f | present f => [f]
  | array fs | slice fs | list fs => fs

lemma sizeOf_lt_of_mem_parts (f : Field) : ∀ g ∈ f.parts, sizeOf g < sizeOf f := by
  intro g h
  cases f with
  | scalar _ | custom _ _ | absent => exact absurd h List.not_mem_nil
  | reference f | present f =>
      obtain rfl := List.mem_singleton.mp h
      simp
  | array fs | slice fs | list fs =>
      have hlt : sizeOf g < sizeOf fs := List.sizeOf_lt_of_mem h
      simp only [array.sizeOf_spec, slice.sizeOf_spec, list.sizeOf_spec]
      omega

/-- **Taking the value of the first field comes upon the second.** -/
abbrev Reaches (f g : Field) : Prop := Within parts f g

/-! ## Another value for absent options -/

mutual

/-- **The field with a value written for its absent options.**  They stay unset. -/
def withAbsent (written : Value) : Field → Field
  | scalar s => scalar s
  | custom unset v => custom unset v
  | reference f => reference (f.withAbsent written)
  | absent => custom true written
  | present f => present (f.withAbsent written)
  | array fs => array (withAbsentAll written fs)
  | slice fs => slice (withAbsentAll written fs)
  | list fs => list (withAbsentAll written fs)

/-- The elements of a container with a value written for their absent options. -/
def withAbsentAll (written : Value) : List Field → List Field
  | [] => []
  | f :: fs => f.withAbsent written :: withAbsentAll written fs

end

variable {written : Value}

lemma withAbsentAll_eq_map (fs : List Field) :
    withAbsentAll written fs = fs.map (withAbsent written) := by
  induction fs with
  | nil => rfl
  | cons f fs ih => simp [withAbsentAll, ih]

@[simp] lemma isUnset_withAbsent (f : Field) : (f.withAbsent written).isUnset = f.isUnset := by
  induction f using induction_parts sizeOf_lt_of_mem_parts with
  | step f ih =>
  cases f with
  | scalar _ | custom _ _ | absent | present _ => rfl
  | reference f => exact ih f List.mem_cons_self
  | slice fs | list fs => cases fs <;> rfl
  | array fs =>
      simp only [withAbsent, isUnset, allUnset_eq_all, withAbsentAll_eq_map, List.all_map]
      rw [Bool.eq_iff_iff, List.all_eq_true, List.all_eq_true]
      refine forall₂_congr fun g hg => ?_
      rw [Function.comp_apply, ih g hg]

lemma value_withAbsent_eq_iff_parts {f : Field} (h : f ≠ absent) :
    (f.withAbsent written).value = f.value
      ↔ ∀ g ∈ f.parts, (g.withAbsent written).value = g.value := by
  cases f with
  | absent => exact absurd rfl h
  | scalar _ | custom _ _ => simp [parts, withAbsent]
  | reference f | present f => simp [parts, withAbsent, value]
  | array fs | slice fs | list fs =>
      simp [parts, withAbsent, value, withAbsentAll_eq_map, values_eq_map]

/-- **The value depends on what is written for absent options iff it reaches one.** -/
theorem value_withAbsent_eq_iff (h : written ≠ .sequence []) (f : Field) :
    (f.withAbsent written).value = f.value ↔ ¬ f.Reaches absent := by
  induction f using induction_parts sizeOf_lt_of_mem_parts with
  | step f ih =>
  by_cases hf : f = absent
  · subst hf
    exact iff_of_false h fun hno => hno (.here absent)
  · rw [value_withAbsent_eq_iff_parts hf, Reaches, within_iff_of_ne hf]
    simp only [not_exists, not_and]
    exact forall₂_congr ih

lemma value_withAbsent_nil (f : Field) : (f.withAbsent (.sequence [])).value = f.value := by
  induction f using induction_parts sizeOf_lt_of_mem_parts with
  | step f ih =>
  by_cases hf : f = absent
  · subst hf
    rfl
  · exact (value_withAbsent_eq_iff_parts hf).mpr ih

/-- **A sequence written for absent options leaves every other kind of value alone**, and a
sequence stays one. -/
lemma value_withAbsent_sequence (items : List Value) (f : Field) :
    (f.withAbsent (.sequence items)).value = f.value ∨
      ∃ vs ws, (f.withAbsent (.sequence items)).value = .sequence vs ∧ f.value = .sequence ws := by
  induction f using induction_parts sizeOf_lt_of_mem_parts with
  | step f ih =>
  cases f with
  | scalar _ | custom _ _ => exact .inl rfl
  | absent => exact .inr ⟨items, [], rfl, rfl⟩
  | reference f | present f => exact ih f List.mem_cons_self
  | array fs | slice fs | list fs => exact .inr ⟨_, _, rfl, rfl⟩

lemma value_withAbsent_of_not_reaches {f : Field} (h : ¬ f.Reaches absent) (items : List Value) :
    (f.withAbsent (.sequence items)).value = f.value := by
  by_cases hempty : Value.sequence items = .sequence []
  · rw [hempty, value_withAbsent_nil]
  · exact (value_withAbsent_eq_iff hempty f).mpr h

/-- **A field reaches an absent option iff its value shows** which sequence is written for it. -/
theorem reaches_absent_iff {f : Field} :
    f.Reaches absent ↔ ∃ items, (f.withAbsent (.sequence items)).value ≠ f.value := by
  constructor
  · intro hreaches
    -- one sequence that is not empty tells
    have hne : Value.sequence [.boolean true] ≠ .sequence [] := by simp
    exact ⟨[.boolean true], fun heq => (value_withAbsent_eq_iff hne f).mp heq hreaches⟩
  · rintro ⟨items, hshows⟩
    exact Classical.not_not.mp fun hno => hshows (value_withAbsent_of_not_reaches hno items)

/-! ## The category -/

/-- What is behind references and in options that are present. -/
def content : Field → Field
  | reference f | present f => f.content
  | f => f

lemma value_content (f : Field) : f.content.value = f.value := by
  induction f using induction_parts sizeOf_lt_of_mem_parts with
  | step f ih =>
  cases f with
  | reference f | present f => exact ih f List.mem_cons_self
  | scalar _ | custom _ _ | absent | array _ | slice _ | list _ => rfl

/-- **The category depends on what is written for absent options iff the field is one**, except
for references and options around it. -/
theorem content_eq_absent_iff {f : Field} :
    f.content = absent ↔ ∃ written, (f.withAbsent written).value.category ≠ f.value.category := by
  induction f using induction_parts sizeOf_lt_of_mem_parts with
  | step f ih =>
  cases f with
  | reference f | present f => exact ih f List.mem_cons_self
  | absent => exact iff_of_true rfl ⟨.boolean true, nofun⟩
  | scalar _ | custom _ _ | array _ | slice _ | list _ =>
      refine iff_of_false nofun ?_
      rintro ⟨written, hcategory⟩
      exact hcategory rfl

end RecordQuery.Field
