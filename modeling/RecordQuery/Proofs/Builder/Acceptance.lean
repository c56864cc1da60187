import Mathlib.Tactic.Lemma
import RecordQuery.Builder
import RecordQuery.Proofs.Document.Entries

/-!
# What a builder accepts

`Condition.fault?` says what is wrong with a condition, given whether patterns are checked: the
operator is not legal for the value, or the pattern is not usable.  It does not mention builders,
and what a builder has accepted before plays no part in it.  `Builder.check_eq` states that this is
all a builder looks at, and the three `Builder.add_of_…` lemmas say what an addition does:

* after a fault, nothing (`Builder.add_of_failed`);
* with a condition that is refused, it records the fault and leaves the document alone
  (`Builder.add_of_refused`);
* with any other condition, it puts the value into the document (`Builder.add_of_accepted`).

Nothing after this file unfolds `Builder.add`.  Answers are written with `faultOr`: the fault if
there is one, else the result.
-/

namespace RecordQuery

variable [PatternJudge]

open PatternJudge (judge)

/-! ## Answers -/

/-- The fault, if there is one, else the result. -/
def faultOr {α : Type} (fault : Option Fault) (result : α) : Except Fault α :=
  match fault with
  | some e => .error e
  | none => .ok result

section

variable {α : Type} {fault : Option Fault} {result result' : α} {e : Fault}

@[simp] lemma faultOr_some : faultOr (some e) result = .error e := rfl

@[simp] lemma faultOr_none : faultOr none result = .ok result := rfl

lemma faultOr_eq_error_iff : faultOr fault result = .error e ↔ fault = some e := by
  cases fault <;> simp

lemma faultOr_eq_ok_iff : faultOr fault result = .ok result' ↔ fault = none ∧ result' = result := by
  cases fault with
  | some e => simp
  | none => simp [eq_comm]

end

namespace Builder

variable {b : Builder} {e : Fault}

lemma isFailed_iff : b.isFailed = true ↔ ∃ e, b.fault = some e :=
  Option.isSome_iff_exists

lemma build_of_failed (h : b.fault = some e) : b.build = .error e := by
  simp only [build, h]

lemma build_of_fine (h : b.fault = none) : b.build = .ok b.document := by
  simp only [build, h]

end Builder

/-! ## Conditions -/

namespace Condition

/-- What the judge has against the pattern of the condition.  Conditions with another operator
have no pattern. -/
def patternFault? (c : Condition) : Option Fault :=
  match c.operator, c.value with
  | .regex, .string pattern =>
    match judge pattern with
    | .error cause => some (.invalidPattern c.key cause)
    | .ok () => none
  | _, _ => none

/-- **What is wrong with the condition.**  The legality of the operator comes first; the pattern
counts only while patterns are checked. -/
def fault? (checksPatterns : Bool) (c : Condition) : Option Fault :=
  if !c.category.allows c.operator then
    some (.unsupportedForCategory c.key c.operator c.category)
  else if checksPatterns then c.patternFault? else none

lemma checkPattern_eq (c : Condition) : c.checkPattern = faultOr c.patternFault? () := by
  obtain ⟨key, op, v⟩ := c
  cases op with
  | regex =>
      cases v with
      | string pattern =>
          simp only [checkPattern, patternFault?, Value.asString?]
          cases judge pattern <;> rfl
      | _ => rfl
  | _ => rfl

/-- A pattern is at fault iff the condition has the operator of patterns and the judge rejects
its text. -/
lemma patternFault?_eq_some_iff {c : Condition} {e : Fault} :
    c.patternFault? = some e ↔ c.operator = .regex ∧
      ∃ pattern cause, c.value = .string pattern ∧ judge pattern = .error cause ∧
        e = .invalidPattern c.key cause := by
  unfold patternFault?
  split
  · next pattern hop hv =>
    rw [hop, hv]
    cases hj : judge pattern with
    | error cause =>
        constructor
        · intro h
          exact ⟨rfl, pattern, cause, rfl, hj, (Option.some.inj h).symm⟩
        · rintro ⟨_, p, c', hp, hc', rfl⟩
          obtain rfl := Value.string.inj hp
          rw [hj] at hc'
          obtain rfl := Except.error.inj hc'
          rfl
    | ok u =>
        constructor
        · intro h
          exact absurd h (by simp)
        · rintro ⟨_, p, c', hp, hc', _⟩
          obtain rfl := Value.string.inj hp
          rw [hj] at hc'
          exact absurd hc' (by simp)
  · next hno =>
    constructor
    · intro h
      exact absurd h (by simp)
    · rintro ⟨hop, p, _, hv, _⟩
      exact (hno p hop hv).elim

/-- **A condition is refused** iff its operator is illegal, or it is a pattern that the judge
rejects while patterns are checked. -/
lemma isSome_fault?_iff {checksPatterns : Bool} {c : Condition} :
    (c.fault? checksPatterns).isSome = true ↔ c.category.allows c.operator = false ∨
      (checksPatterns = true ∧ c.operator = .regex ∧
        ∃ pattern cause, c.value = .string pattern ∧ judge pattern = .error cause) := by
  unfold fault?
  cases hc : c.category.allows c.operator with
  | false => simp
  | true =>
      cases checksPatterns with
      | false => simp
      | true =>
          simp only [Bool.not_true, Bool.false_eq_true, if_false, if_true, false_or, true_and,
            reduceCtorEq, Option.isSome_iff_exists, patternFault?_eq_some_iff]
          constructor
          · rintro ⟨e, hop, p, cause, hv, hj, _⟩
            exact ⟨hop, p, cause, hv, hj⟩
          · rintro ⟨hop, p, cause, hv, hj⟩
            exact ⟨_, hop, p, cause, hv, hj, rfl⟩

lemma allows_of_fault?_eq_none {checksPatterns : Bool} {c : Condition}
    (h : c.fault? checksPatterns = none) : c.category.allows c.operator = true := by
  cases hc : c.category.allows c.operator with
  | true => rfl
  | false =>
      have hrefused : (c.fault? checksPatterns).isSome = true := isSome_fault?_iff.mpr (.inl hc)
      rw [h] at hrefused
      exact absurd hrefused Bool.false_ne_true

/-- **The check of patterns sees every pattern.**  The matrix lets only texts through to the
operator of patterns, so a `$regex` condition that is not refused while patterns are checked has
a text that the judge accepts. -/
lemma usable_of_fault?_eq_none {c : Condition} (h : c.fault? true = none)
    (hop : c.operator = .regex) :
    ∃ pattern, c.value = .string pattern ∧ judge pattern = .ok () := by
  have hlegal := allows_of_fault?_eq_none h
  rw [hop, Category.allows_regex] at hlegal
  obtain ⟨pattern, hv⟩ := Value.category_eq_string_iff.mp hlegal
  refine ⟨pattern, hv, ?_⟩
  cases hj : judge pattern with
  | ok u => rfl
  | error cause =>
      have hrefused := isSome_fault?_iff.mpr (.inr ⟨rfl, hop, pattern, cause, hv, hj⟩)
      rw [h] at hrefused
      exact absurd hrefused Bool.false_ne_true

end Condition

/-! ## Builders -/

namespace Builder

/-- A builder looks at the condition and at its own switch, and at nothing else. -/
lemma check_eq (b : Builder) (c : Condition) :
    b.check c = faultOr (c.fault? b.checksPatterns) () := by
  unfold check Condition.fault? Condition.validate
  cases c.category.allows c.operator with
  | false => rfl
  | true =>
      cases b.checksPatterns with
      | false => rfl
      | true => exact c.checkPattern_eq

variable {b : Builder} {c : Condition} {e : Fault}

/-- **The first fault stays.** -/
lemma add_of_failed (h : b.fault = some e) (c : Condition) : b.add c = b := by
  simp only [add, h]

lemma add_of_refused (h : b.fault = none) (hc : c.fault? b.checksPatterns = some e) :
    b.add c = { b with fault := some e } := by
  simp only [add, h, check_eq, hc, faultOr_some]

lemma add_of_accepted (h : b.fault = none) (hc : c.fault? b.checksPatterns = none) :
    b.add c = { b with document := b.document.insert c.key c.operator c.value } := by
  simp only [add, h, check_eq, hc, faultOr_none]

@[simp] lemma checksPatterns_add (b : Builder) (c : Condition) :
    (b.add c).checksPatterns = b.checksPatterns := by
  cases h : b.fault with
  | some e => rw [add_of_failed h]
  | none =>
      cases hc : c.fault? b.checksPatterns with
      | some e => rw [add_of_refused h hc]
      | none => rw [add_of_accepted h hc]

end Builder

end RecordQuery
