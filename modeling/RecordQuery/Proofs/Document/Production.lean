import RecordQuery.Proofs.Document.Extensionality
import RecordQuery.Proofs.Document.Invariant

/-!
# Where documents come from

Two things produce documents: runs of a builder, and the compilation of records.  Either way the
document is that of a list of conditions none of which was refused
(`Document.Produced.exists_conditions`), and that is all that is ever used of its origin.
-/

namespace RecordQuery.Document

variable [PatternJudge] {d : Document}

/-- **The document was built or compiled.** -/
def Produced (d : Document) : Prop :=
  (∃ steps, (Builder.new.run steps).build = .ok d) ∨
    ∃ (o : Options) (record : List Descriptor), o.compile record = .ok d

lemma Produced.exists_conditions (h : d.Produced) :
    ∃ cs : List Condition, (∀ c ∈ cs, ∃ checks, c.fault? checks = none) ∧ d = ofConditions cs := by
  rcases h with ⟨steps, h⟩ | ⟨o, record, h⟩
  · obtain ⟨hfine, rfl⟩ := Builder.build_run_eq_ok_iff.mp h
    refine ⟨_, fun c hc => ?_, rfl⟩
    obtain ⟨a, ha, rfl⟩ := List.mem_map.mp hc
    exact ⟨_, hfine a ha⟩
  · obtain ⟨hfine, rfl⟩ := Options.compile_eq_ok_iff.mp h
    refine ⟨_, fun c hc => ?_, rfl⟩
    obtain ⟨d, hd, hdc⟩ := List.mem_filterMap.mp hc
    exact ⟨_, Options.fault?_of_condition? (hfine d hd) hdc⟩

theorem Produced.wellFormed (h : d.Produced) : d.WellFormed := by
  obtain ⟨cs, _, rfl⟩ := h.exists_conditions
  exact wellFormed_ofConditions cs

theorem Produced.valid (h : d.Produced) : d.Valid := by
  obtain ⟨cs, hfine, rfl⟩ := h.exists_conditions
  exact valid_ofConditions hfine

lemma Produced.allows (h : d.Produced) {key : String} {op : Operator} {v : Value}
    (hv : d.value? key op = some v) : v.category.allows op = true := by
  obtain ⟨m, hm, hp⟩ := h.wellFormed.value?_eq_some_iff.mp hv
  exact h.valid.legal _ hm _ hp

end RecordQuery.Document
