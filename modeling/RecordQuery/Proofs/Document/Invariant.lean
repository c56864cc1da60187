import RecordQuery.Proofs.Builder.Runs
import RecordQuery.Proofs.Compilation.FirstFault
import RecordQuery.Proofs.Text.ByteOrder

/-!
# The invariant of documents

Whatever way a document comes about, a run of a builder or the compilation of a record, it is of
the same kind, which is what a store may rely on.

* `Document.Valid` — keys ascend by their bytes, no key is without operator, operators ascend, and
  every value is legal under its operator.
* `Document.PatternsUsable` — every value under the operator of patterns is a text that the judge
  accepts.
* `Document.documents_valid` — every document is valid, and one that was made with the check of
  patterns on all the time has usable patterns.

Both ways end in the document of a list of conditions that were not refused, so the invariant is
shown for these (`valid_ofConditions`, `patternsUsable_ofConditions`): the shape because every
insertion keeps it, the rest entry by entry.
-/

namespace RecordQuery.Document

/-- **A document that a store can rely on.** -/
structure Valid (d : Document) : Prop where
  /-- The keys ascend strictly in the order of their bytes. -/
  keys_ascend : d.keys.Pairwise fun k l => Text.bytes k < Text.bytes l
  /-- Every key has an operator. -/
  operators_nonempty : ∀ e ∈ d.toList, e.2.keys ≠ []
  /-- The operators of a key ascend strictly. -/
  operators_ascend : ∀ e ∈ d.toList, e.2.keys.Pairwise fun a b => compare a b = .lt
  /-- Every value is legal under its operator. -/
  legal : ∀ e ∈ d.toList, ∀ p ∈ e.2.entries, p.2.category.allows p.1 = true
  /-- Patterns are texts. -/
  regex_string : ∀ e ∈ d.toList, ∀ p ∈ e.2.entries, p.1 = .regex → ∃ s, p.2 = .string s
  /-- Order comparisons are about whole numbers. -/
  range_integer : ∀ e ∈ d.toList, ∀ p ∈ e.2.entries, p.1.isRange = true →
    (∃ n, p.2 = .int n) ∨ ∃ n, p.2 = .uint n
  /-- Nothing is compared with a sequence for equality. -/
  eq_not_sequence : ∀ e ∈ d.toList, ∀ p ∈ e.2.entries, p.1 = .eq → ∀ vs, p.2 ≠ .sequence vs
  /-- No floating-point number stands directly under an operator. -/
  not_float : ∀ e ∈ d.toList, ∀ p ∈ e.2.entries, ∀ x, p.2 ≠ .float x

/-- Every pattern in the document is a text that the judge accepts. -/
def PatternsUsable [PatternJudge] (d : Document) : Prop :=
  ∀ e ∈ d.toList, ∀ p ∈ e.2.entries, p.1 = .regex →
    ∃ pattern, p.2 = .string pattern ∧ PatternJudge.judge pattern = .ok ()

/-! ## What legality means for a value -/

lemma isString_of_legal {v : Value} (h : v.category.allows .regex = true) : ∃ s, v = .string s :=
  Value.category_eq_string_iff.mp ((Category.allows_regex _).mp h)

lemma isInteger_of_legal {v : Value} {op : Operator} (hop : op.isRange = true)
    (h : v.category.allows op = true) : (∃ n, v = .int n) ∨ ∃ n, v = .uint n := by
  rw [Category.allows_of_isRange hop] at h
  cases v with
  | int n => exact .inl ⟨n, rfl⟩
  | uint n => exact .inr ⟨n, rfl⟩
  | string _ => exact absurd h nofun
  | float _ => exact absurd h nofun
  | boolean _ => exact absurd h nofun
  | sequence _ => exact absurd h nofun

lemma not_sequence_of_legal {v : Value} (h : v.category.allows .eq = true) (vs : List Value) :
    v ≠ .sequence vs := by
  rintro rfl
  exact absurd h Bool.false_ne_true

lemma not_float_of_legal {v : Value} {op : Operator} (h : v.category.allows op = true)
    (x : Binary64) : v ≠ .float x := by
  rintro rfl
  exact absurd h Bool.false_ne_true

/-! ## The two ways to a document -/

lemma WellFormed.valid {d : Document} (h : d.WellFormed)
    (hlegal : d.Every fun _ op v => v.category.allows op = true) : d.Valid where
  keys_ascend :=
    List.pairwise_map.mpr (h.keys_sorted.imp fun hlt => Text.bytes_lt_of_compare hlt)
  operators_nonempty := by
    intro e he hkeys
    have hnonempty := h.operators_nonempty e he
    rw [OrderedMap.isEmpty, List.map_eq_nil_iff.mp hkeys] at hnonempty
    exact absurd hnonempty (by decide)
  operators_ascend := fun e he => List.pairwise_map.mpr (h.operators_sorted e he)
  legal := hlegal
  regex_string := by
    intro e he p hp hop
    exact isString_of_legal (hop ▸ hlegal e he p hp)
  range_integer := fun e he p hp hop => isInteger_of_legal hop (hlegal e he p hp)
  eq_not_sequence := by
    intro e he p hp hop
    exact not_sequence_of_legal (hop ▸ hlegal e he p hp)
  not_float := fun e he p hp => not_float_of_legal (hlegal e he p hp)

section

variable [PatternJudge] {cs : List Condition}

/-- Conditions that were not refused, patterns being checked or not, make a valid document. -/
lemma valid_ofConditions (h : ∀ c ∈ cs, ∃ checks, c.fault? checks = none) :
    (ofConditions cs).Valid := by
  refine (wellFormed_ofConditions cs).valid (every_insertAll every_empty ?_)
  intro c hc
  obtain ⟨_, hfine⟩ := h c hc
  exact Condition.allows_of_fault?_eq_none hfine

/-- Conditions that were not refused while patterns were checked make a document of usable
patterns. -/
lemma patternsUsable_ofConditions (h : ∀ c ∈ cs, c.fault? true = none) :
    (ofConditions cs).PatternsUsable := by
  have hevery : (ofConditions cs).Every fun _ op v => op = .regex →
      ∃ pattern, v = .string pattern ∧ PatternJudge.judge pattern = .ok () := by
    refine every_insertAll every_empty ?_
    intro c hc hop
    exact Condition.usable_of_fault?_eq_none (h c hc) hop
  exact hevery

/-- **Every document is valid**, be it built in a run of a builder or compiled from a record.  If
patterns were checked at every addition of the run, or throughout the compilation, all its
patterns are usable.  No condition slips through that check for want of a text: what passes the
matrix under the operator of patterns has one. -/
theorem documents_valid :
    (∀ steps doc, (Builder.new.run steps).build = .ok doc → doc.Valid ∧
      ((∀ a ∈ Builder.additions false steps, a.checksPatterns = true) → doc.PatternsUsable)) ∧
    (∀ (o : Options) (record : List Descriptor) (doc : Document), o.compile record = .ok doc →
      doc.Valid ∧ (o.checkPatterns = true → doc.PatternsUsable)) ∧
    ∀ c : Condition, c.validate = .ok () → c.operator = .regex → ∃ s, c.value = .string s := by
  refine ⟨?built, ?compiled, ?matched⟩
  case built =>
    intro steps doc h
    obtain ⟨hfine, rfl⟩ := Builder.build_run_eq_ok_iff.mp h
    constructor
    · refine valid_ofConditions fun c hc => ?_
      obtain ⟨a, ha, rfl⟩ := List.mem_map.mp hc
      exact ⟨_, hfine a ha⟩
    · intro hchecked
      refine patternsUsable_ofConditions fun c hc => ?_
      obtain ⟨a, ha, rfl⟩ := List.mem_map.mp hc
      exact hchecked a ha ▸ hfine a ha
  case compiled =>
    intro o record doc h
    obtain ⟨hfine, rfl⟩ := Options.compile_eq_ok_iff.mp h
    have hconditions : ∀ c ∈ record.filterMap Descriptor.condition?,
        c.fault? o.checkPatterns = none := by
      intro c hc
      obtain ⟨d, hd, hdc⟩ := List.mem_filterMap.mp hc
      exact Options.fault?_of_condition? (hfine d hd) hdc
    constructor
    · exact valid_ofConditions fun c hc => ⟨_, hconditions c hc⟩
    · intro hchecked
      exact patternsUsable_ofConditions fun c hc => hchecked ▸ hconditions c hc
  case matched =>
    intro c hvalid hop
    exact isString_of_legal (hop ▸ Condition.validate_eq_ok_iff.mp hvalid)

end

/-- A run with the check of patterns on. -/
def checkedRun : List Builder.Step :=
  [.checkPatterns true, .add ⟨"age", .gte, .int 18⟩, .add ⟨"name", .regex, .string "^a"⟩]

/-- A record with a pattern. -/
def patternRecord : List Descriptor := [⟨"name", "name", "$regex", .scalar (.string "^a")⟩]

/-- A judge that does not pass every text, and says why. -/
@[reducible] def strictJudge : PatternJudge where
  Cause := String
  explain cause := cause
  judge text := if text = "(" then .error "unclosed group" else .ok ()

/-- A run and a record that pass the check of patterns under that judge. -/
theorem documents_valid_checked :
    letI : PatternJudge := strictJudge
    ∃ built compiled,
      (Builder.new.run checkedRun).build = .ok built ∧
        (∀ a ∈ Builder.additions false checkedRun, a.checksPatterns = true) ∧
        built.Valid ∧ built.PatternsUsable ∧
      Options.compile ⟨true, true⟩ patternRecord = .ok compiled ∧
        compiled.Valid ∧ compiled.PatternsUsable ∧
      Condition.validate ⟨"name", .regex, .string "^a"⟩ = .ok () ∧
        ∃ s, Value.string "^a" = .string s := by
  obtain ⟨hruns, hrecords, hmatched⟩ := @documents_valid strictJudge
  have hchecked : ∀ a ∈ Builder.additions false checkedRun, a.checksPatterns = true := by decide
  obtain ⟨hbuilt, hbuilt'⟩ := hruns checkedRun _ rfl
  obtain ⟨hcompiled, hcompiled'⟩ := hrecords ⟨true, true⟩ patternRecord _ rfl
  exact ⟨_, _, rfl, hchecked, hbuilt, hbuilt' hchecked, rfl, hcompiled, hcompiled' rfl, rfl,
    hmatched ⟨"name", .regex, .string "^a"⟩ rfl rfl⟩

end RecordQuery.Document
