import Mathlib.Tactic.Lemma

/-!
# What a tree is made of

Fields, values and JSON trees all are what they are by their parts, which are of the same type and
come in lists.  This file holds what they have in common, for any type with a function `parts` to
the parts of a thing.

* `induction_parts` — induction from the parts of a thing to the thing.
* `Within` — what one comes upon in a thing by going to a part, to a part of the part, and so on.
* `within_map_iff` — a function that turns parts into parts loses none and adds none.
-/

namespace RecordQuery

variable {α β : Type} {parts : α → List α}

/-- **Induction from the parts of a thing to the thing**, whose parts are smaller. -/
theorem induction_parts [SizeOf α] (smaller : ∀ a, ∀ b ∈ parts a, sizeOf b < sizeOf a)
    {motive : α → Prop} (step : ∀ a, (∀ b ∈ parts a, motive b) → motive a) (a : α) : motive a :=
  step a fun b _ => induction_parts smaller step b
termination_by sizeOf a
decreasing_by exact smaller a b ‹_›

/-- **The second thing is found in the first one**, at any depth, the surface included. -/
inductive Within (parts : α → List α) : α → α → Prop
  /-- at the surface -/
  | here (a : α) : Within parts a a
  /-- in a part -/
  | part {a b c : α} (hpart : b ∈ parts a) (h : Within parts b c) : Within parts a c

lemma within_iff {a c : α} : Within parts a c ↔ a = c ∨ ∃ b ∈ parts a, Within parts b c := by
  constructor
  · intro h
    cases h with
    | here => exact .inl rfl
    | part hpart h => exact .inr ⟨_, hpart, h⟩
  · rintro (rfl | ⟨b, hpart, h⟩)
    · exact .here a
    · exact .part hpart h

/-- What is not the thing itself is found in one of its parts. -/
lemma within_iff_of_ne {a c : α} (h : a ≠ c) :
    Within parts a c ↔ ∃ b ∈ parts a, Within parts b c := by
  rw [within_iff]
  exact or_iff_right h

lemma Within.trans {a b c : α} (hab : Within parts a b) (hbc : Within parts b c) :
    Within parts a c := by
  induction hab with
  | here => exact hbc
  | part hpart _ ih => exact .part hpart (ih hbc)

/-- **A function that turns parts into parts** finds the same things. -/
theorem within_map_iff {parts' : β → List β} {f : α → β}
    (hf : ∀ a, parts' (f a) = (parts a).map f) {a : α} {c : β} :
    Within parts' (f a) c ↔ ∃ b, Within parts a b ∧ f b = c := by
  constructor
  · intro h
    generalize hfa : f a = a' at h
    induction h generalizing a with
    | here => exact ⟨a, .here a, hfa⟩
    | part hpart _ ih =>
        subst hfa
        rw [hf] at hpart
        obtain ⟨b, hb, rfl⟩ := List.mem_map.mp hpart
        obtain ⟨c, hc, rfl⟩ := ih rfl
        exact ⟨c, .part hb hc, rfl⟩
  · rintro ⟨b, h, rfl⟩
    induction h with
    | here => exact .here _
    | part hpart _ ih =>
        refine .part ?_ ih
        rw [hf]
        exact List.mem_map_of_mem hpart

end RecordQuery
