import RecordQuery.Proofs.Compilation.Order
import RecordQuery.Proofs.Document.Merge

/-!
# Records put together

The fields of a second record may be compiled behind those of a first one, by the same builder.  It
then already holds the document of the first record, or its fault, while a compilation of the second
record alone starts with nothing.  What is in the builder makes no difference to which fields
offend, so the whole can be told from the two answers (**`Options.compile_append`**): the first
fault in the order of the records, or else the two documents merged.

`Options.compile_composes` states the cases one by one, with the laws of the merge.  As a record is
merged into itself without effect, declaring all its fields a second time changes nothing.
-/

namespace RecordQuery

namespace Options

section

variable [PatternJudge] {o : Options} {xs ys : List Descriptor} {d d' : Document} {e : Fault}

/-- **The answer for both records follows from the two answers.** -/
theorem compile_append (o : Options) (xs ys : List Descriptor) :
    o.compile (xs ++ ys) = do
      let d ← o.compile xs
      let d' ← o.compile ys
      return d.merge d' := by
  have hwf : (Document.ofConditions (xs.filterMap Descriptor.condition?)).WellFormed :=
    Document.wellFormed_ofConditions _
  simp only [compile_eq, List.findSome?_append, List.filterMap_append]
  rw [Document.ofConditions, Document.insertAll_append, ← Document.ofConditions,
    hwf.insertAll_eq_merge]
  cases xs.findSome? o.offence? with
  | some e => rfl
  | none =>
      cases ys.findSome? o.offence? with
      | some e => rfl
      | none => rfl

lemma compile_append_of_error (h : o.compile xs = .error e) (ys : List Descriptor) :
    o.compile (xs ++ ys) = .error e := by
  rw [compile_append, h]
  rfl

lemma compile_append_of_ok_error (h : o.compile xs = .ok d) (h' : o.compile ys = .error e) :
    o.compile (xs ++ ys) = .error e := by
  rw [compile_append, h, h']
  rfl

lemma compile_append_of_ok (h : o.compile xs = .ok d) (h' : o.compile ys = .ok d') :
    o.compile (xs ++ ys) = .ok (d.merge d') := by
  rw [compile_append, h, h']
  rfl

lemma compile_append_self (o : Options) (xs : List Descriptor) :
    o.compile (xs ++ xs) = o.compile xs := by
  cases h : o.compile xs with
  | error e => exact compile_append_of_error h xs
  | ok d => rw [compile_append_of_ok h h, (wellFormed_of_compile h).merge_self]

/-- **Compilation composes.**

1. A fault of the first record is the fault of both.
2. If only the second record has a fault, that is the fault of both.
3. Of two documents comes their merge, in which every key and operator has the value of the second
   document, or else that of the first.
4. The merge is associative, and the empty document is its unit.
5. A record behind itself compiles like the record alone. -/
theorem compile_composes (o : Options) :
    (∀ xs ys e, o.compile xs = .error e → o.compile (xs ++ ys) = .error e) ∧
    (∀ xs ys d e, o.compile xs = .ok d → o.compile ys = .error e →
      o.compile (xs ++ ys) = .error e) ∧
    (∀ xs ys d d', o.compile xs = .ok d → o.compile ys = .ok d' →
      o.compile (xs ++ ys) = .ok (d.merge d') ∧ (d.merge d').WellFormed ∧
        ∀ key op, (d.merge d').value? key op = (d'.value? key op).or (d.value? key op)) ∧
    ((∀ a b c : Document, a.WellFormed → b.WellFormed → c.WellFormed →
        (a.merge b).merge c = a.merge (b.merge c)) ∧
      ∀ a : Document, a.WellFormed → a.merge .empty = a ∧ Document.empty.merge a = a) ∧
    ∀ xs, o.compile (xs ++ xs) = o.compile xs := by
  refine ⟨?first, ?second, ?both, ⟨?assoc, ?unit⟩, compile_append_self o⟩
  case first =>
    intro xs ys e h
    exact compile_append_of_error h ys
  case second =>
    intro xs ys d e h h'
    exact compile_append_of_ok_error h h'
  case both =>
    intro xs ys d d' h h'
    have hd : d.WellFormed := wellFormed_of_compile h
    have hd' : d'.WellFormed := wellFormed_of_compile h'
    exact ⟨compile_append_of_ok h h', hd.merge d', hd'.value?_merge d⟩
  case assoc =>
    intro a b c ha hb hc
    exact ha.merge_assoc hb hc
  case unit =>
    intro a ha
    exact ⟨a.merge_empty, ha.empty_merge⟩

end

/-- A field whose operator is illegal. -/
def flagAbove : List Descriptor := [⟨"flag", "flag", "$gt", .scalar (.boolean true)⟩]

/-- A field whose tag is that of no operator. -/
def placeNear : List Descriptor := [⟨"place", "place", "$near", .scalar (.string "here")⟩]

/-- Two records for one key, one of them with a repeated pair, and two records that fail. -/
theorem compile_composes_age :
    ∃ d d', standard.compile ageFrom = .ok d ∧ standard.compile ageBelow = .ok d' ∧
      standard.compile (flagAbove ++ placeNear)
        = .error (.unsupportedForCategory "flag" .gt .boolean) ∧
      standard.compile (ageFrom ++ placeNear) = .error (.unsupportedTag "$near" "place") ∧
      (standard.compile (ageFrom ++ ageBelow) = .ok (d.merge d') ∧
        (d.merge d').value? "age" .gte = some (.int 21)) ∧
      (d.merge d').merge d = d.merge (d'.merge d) ∧
      (d.merge .empty = d ∧ Document.empty.merge d = d) ∧
      standard.compile (ageFrom ++ ageFrom) = standard.compile ageFrom := by
  obtain ⟨hfirst, hsecond, hboth, ⟨hassoc, hunit⟩, hself⟩ := compile_composes standard
  have hwf : ∀ {xs d}, standard.compile xs = .ok d → d.WellFormed := wellFormed_of_compile
  have hage : standard.compile ageFrom = .ok ⟨⟨[("age", ⟨[(.gte, .int 21)]⟩)]⟩⟩ := rfl
  have hbelow : standard.compile ageBelow = .ok ⟨⟨[("age", ⟨[(.lt, .int 65)]⟩)]⟩⟩ := rfl
  obtain ⟨hmerged, _, hvalues⟩ := hboth _ _ _ _ hage hbelow
  refine ⟨_, _, hage, hbelow, ?_, ?_, ⟨hmerged, ?_⟩, ?_, ?_, hself ageFrom⟩
  · exact hfirst flagAbove placeNear _ rfl
  · exact hsecond ageFrom placeNear _ _ hage rfl
  · rw [hvalues]
    rfl
  · exact hassoc _ _ _ (hwf hage) (hwf hbelow) (hwf hage)
  · exact hunit _ (hwf hage)

end Options

end RecordQuery
