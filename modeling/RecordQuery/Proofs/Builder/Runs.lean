import RecordQuery.Proofs.Builder.Acceptance

/-!
# Runs of a builder

A run is any sequence of switchings of the pattern check and of additions, in any order.  What
a run leaves behind is told by its steps alone.

* `Builder.Step`, `Builder.run` — the steps and their effect.
* `Builder.additions` — the conditions of a run, each with the state of the switch *at its
  addition*.  The switch at the end of the run plays no part.
* **`Builder.build_run`** — the answer is the fault of the first addition that is refused, or else
  the document of all conditions.
* `Builder.run_outcome` — the same in terms of the matrix and the judge, together with the two
  laws of stability: nothing changes the answers of a failed builder, and switching never changes
  an answer.

A prefix of a run is a run, so all of this holds at every point of one.  The invariant that carries
the induction is the absence of a fault: until the first refusal the document is that of the
prefix, and from then on `run_of_failed` takes over.
-/

namespace RecordQuery.Builder

variable [PatternJudge]

open PatternJudge (judge)

/-- A call on a builder. -/
inductive Step
  /-- switches the check of patterns on or off -/
  | checkPatterns (enabled : Bool)
  /-- adds a condition -/
  | add (c : Condition)

/-- An addition, with the state of the switch at that moment. -/
structure Addition where
  /-- whether patterns are checked -/
  checksPatterns : Bool
  /-- what is added -/
  condition : Condition

/-- **The additions of a run** that starts with the switch in the given state. -/
def additions : Bool → List Step → List Addition
  | _, [] => []
  | _, .checkPatterns enabled :: steps => additions enabled steps
  | checks, .add c :: steps => ⟨checks, c⟩ :: additions checks steps

lemma isFailed_iff_build {b : Builder} : b.isFailed = true ↔ ∃ e, b.build = .error e := by
  rw [isFailed_iff]
  cases h : b.fault with
  | some e => simp [build_of_failed h]
  | none => simp [build_of_fine h]

/-- What is wrong with an addition.  Only the switch at its moment counts. -/
def Addition.fault? (a : Addition) : Option Fault := a.condition.fault? a.checksPatterns

/-- The effect of a call. -/
def step (b : Builder) : Step → Builder
  | .checkPatterns enabled => b.checkPatterns enabled
  | .add c => b.add c

/-- The effect of a sequence of calls. -/
def run (b : Builder) (steps : List Step) : Builder := steps.foldl step b

lemma run_cons (b : Builder) (s : Step) (steps : List Step) :
    b.run (s :: steps) = (b.step s).run steps := rfl

lemma run_append (b : Builder) (steps more : List Step) :
    b.run (steps ++ more) = (b.run steps).run more :=
  List.foldl_append

/-- **A fault is for good.** -/
lemma run_of_failed {b : Builder} {e : Fault} (h : b.fault = some e) (steps : List Step) :
    (b.run steps).fault = some e := by
  induction steps generalizing b with
  | nil => exact h
  | cons s steps ih =>
      rw [run_cons]
      cases s with
      | checkPatterns enabled => exact ih h
      | add c =>
          refine ih ?_
          rw [step, add_of_failed h]
          exact h

/-- **What a run answers**, from any builder that has no fault. -/
theorem build_run {b : Builder} (h : b.fault = none) (steps : List Step) :
    (b.run steps).build = faultOr ((additions b.checksPatterns steps).findSome? Addition.fault?)
      (b.document.insertAll ((additions b.checksPatterns steps).map (·.condition))) := by
  induction steps generalizing b with
  | nil => exact build_of_fine h
  | cons s steps ih =>
      rw [run_cons]
      cases s with
      | checkPatterns enabled => exact ih h
      | add c =>
          rw [step, additions, List.findSome?_cons]
          cases hc : Addition.fault? ⟨b.checksPatterns, c⟩ with
          | some e =>
              have hadd := add_of_refused h hc
              exact build_of_failed (run_of_failed (by rw [hadd]) steps)
          | none =>
              have hadd := add_of_accepted h hc
              have hfine : (b.add c).fault = none := by rw [hadd]; exact h
              rw [ih hfine, checksPatterns_add, hadd, List.map_cons, Document.insertAll_cons]

lemma build_run_eq_error_iff {steps : List Step} {e : Fault} :
    (new.run steps).build = .error e
      ↔ (additions false steps).findSome? Addition.fault? = some e := by
  rw [build_run rfl, faultOr_eq_error_iff]
  rfl

lemma build_run_eq_ok_iff {steps : List Step} {doc : Document} :
    (new.run steps).build = .ok doc ↔ (∀ a ∈ additions false steps, a.fault? = none) ∧
      doc = .ofConditions ((additions false steps).map (·.condition)) := by
  rw [build_run rfl, faultOr_eq_ok_iff, List.findSome?_eq_none_iff]
  rfl

lemma build_run_switches (b : Builder) (switches : List Bool) :
    (b.run (switches.map .checkPatterns)).build = b.build := by
  induction switches generalizing b with
  | nil => rfl
  | cons enabled switches ih =>
      rw [List.map_cons, run_cons, ih]
      rfl

/-- **The outcome of a run.**

1. It has failed iff some condition was added whose operator is illegal for its value, or whose
   pattern the judge rejects while patterns were checked at that moment.
2. The fault is that of the earliest such addition.
3. If there is none, the answer is the document of the conditions, in which every key and operator
   has the value of the last condition about them.
4. Once it has failed, no further call changes what it answers.
5. Switching the check of patterns does not change what it answers.
6. Legal are the operators that the table of the categories lists. -/
theorem run_outcome (steps : List Step) :
    ((new.run steps).isFailed = true ↔ ∃ a ∈ additions false steps,
      a.condition.category.allows a.condition.operator = false ∨
        (a.checksPatterns = true ∧ a.condition.operator = .regex ∧
          ∃ pattern cause, a.condition.value = .string pattern ∧ judge pattern = .error cause)) ∧
    (∀ e, (new.run steps).build = .error e ↔ ∃ before a behind,
      additions false steps = before ++ a :: behind ∧ a.fault? = some e ∧
        ∀ a' ∈ before, a'.fault? = none) ∧
    (∀ doc, (new.run steps).build = .ok doc ↔ (∀ a ∈ additions false steps, a.fault? = none) ∧
      doc = .ofConditions ((additions false steps).map (·.condition))) ∧
    (∀ key op, (Document.ofConditions ((additions false steps).map (·.condition))).value? key op
      = Condition.lastAt? ((additions false steps).map (·.condition)) key op) ∧
    (∀ more, (new.run steps).isFailed = true →
      (new.run (steps ++ more)).isFailed = true ∧
        (new.run (steps ++ more)).build = (new.run steps).build) ∧
    (∀ switches : List Bool,
      (new.run (steps ++ switches.map .checkPatterns)).isFailed = (new.run steps).isFailed ∧
        (new.run (steps ++ switches.map .checkPatterns)).build = (new.run steps).build) ∧
    ∀ (category : Category) (op : Operator), category.allows op = true ↔ op ∈ category.legal := by
  refine ⟨?failed, ?earliest, fun _ => build_run_eq_ok_iff, Document.value?_ofConditions _,
    ?sticky, ?switching, fun _ _ => Category.allows_iff_mem_legal⟩
  case failed =>
    simp only [isFailed_iff_build, build_run_eq_error_iff, ← Option.isSome_iff_exists,
      List.findSome?_isSome_iff]
    refine exists_congr fun a => and_congr_right fun _ => ?_
    exact Condition.isSome_fault?_iff
  case earliest =>
    intro e
    exact build_run_eq_error_iff.trans List.findSome?_eq_some_iff
  case sticky =>
    intro more hfailed
    obtain ⟨e, he⟩ := isFailed_iff.mp hfailed
    have hmore := run_of_failed he more
    rw [run_append, build_of_failed hmore, build_of_failed he]
    exact ⟨isFailed_iff.mpr ⟨e, hmore⟩, rfl⟩
  case switching =>
    intro switches
    rw [run_append]
    refine ⟨?_, build_run_switches _ switches⟩
    rw [Bool.eq_iff_iff, isFailed_iff_build, isFailed_iff_build, build_run_switches]

end RecordQuery.Builder
