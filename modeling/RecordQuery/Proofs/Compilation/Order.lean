import RecordQuery.Proofs.Compilation.LastWrite
import RecordQuery.Proofs.Document.Extensionality

/-!
# The order in which fields are declared

Two records with the same fields in different orders are gone through differently: a compilation
may stop at another field, and of several values for one key and operator another one may be the
last.  What of this can be seen in a document is stated by `Options.compile_perm`.

* Whether a record compiles does not depend on the order.
* Nor does it what the document has values for, key by key and operator by operator.
* The document is the same, value for value, if the set fields for each single key and operator
  keep their order among themselves.  How they stand to the other fields is of no consequence.

The third part is where the order of insertions could matter.  It does not need insertions to be
exchanged one by one: the values of both documents are those of the last fields
(`Options.value?_compile`), and a document is determined by its values.
-/

namespace RecordQuery

namespace Descriptor

lemma isSome_lastFor? {record : List Descriptor} {key : String} {op : Operator} :
    (lastFor? record key op).isSome = true ↔ ∃ d ∈ record, d.isFor key op = true := by
  rw [lastFor?, List.getLast?_isSome]
  constructor
  · intro h
    obtain ⟨d, hd⟩ := List.exists_mem_of_ne_nil _ h
    exact ⟨d, List.mem_filter.mp hd⟩
  · rintro ⟨d, hd⟩
    exact List.ne_nil_of_mem (List.mem_filter.mpr hd)

end Descriptor

namespace Options

section

variable [PatternJudge] {o : Options} {record record' : List Descriptor} {doc doc' : Document}

/-- Whether a record compiles depends on its fields one by one. -/
lemma compiles_iff : (∃ doc, o.compile record = .ok doc) ↔ ∀ d ∈ record, o.offence? d = none := by
  simp only [compile_eq_ok_iff, exists_and_left, exists_eq, and_true]

lemma wellFormed_of_compile (h : o.compile record = .ok doc) : doc.WellFormed := by
  obtain ⟨_, rfl⟩ := compile_eq_ok_iff.mp h
  exact Document.wellFormed_ofConditions _

lemma keys_of_perm (hperm : record.Perm record') (h : o.compile record = .ok doc)
    (h' : o.compile record' = .ok doc') : doc.keys = doc'.keys := by
  refine OrderedMap.keys_ext (wellFormed_of_compile h).keys_sorted
    (wellFormed_of_compile h').keys_sorted fun key => ?_
  change key ∈ doc.keys ↔ key ∈ doc'.keys
  rw [mem_keys_compile h, mem_keys_compile h']
  exact ((hperm.filter _).map _).mem_iff

lemma isSome_value?_of_perm (hperm : record.Perm record') (h : o.compile record = .ok doc)
    (h' : o.compile record' = .ok doc') (key : String) (op : Operator) :
    (doc.value? key op).isSome = (doc'.value? key op).isSome := by
  rw [value?_compile h, value?_compile h', Option.isSome_map, Option.isSome_map, Bool.eq_iff_iff,
    Descriptor.isSome_lastFor?, Descriptor.isSome_lastFor?]
  simp only [hperm.mem_iff]

/-- **Declaration order.**  A record compiles iff any rearrangement of it does.  The two documents
have the same keys, and values for the same keys and operators.  If moreover the set fields for
each key and operator are in the same order in both records, the documents are the same. -/
theorem compile_perm (o : Options) (record record' : List Descriptor)
    (hperm : record.Perm record') :
    ((∃ doc, o.compile record = .ok doc) ↔ ∃ doc', o.compile record' = .ok doc') ∧
    ∀ doc doc', o.compile record = .ok doc → o.compile record' = .ok doc' →
      doc.keys = doc'.keys ∧
      (∀ key op, (doc.value? key op).isSome = (doc'.value? key op).isSome) ∧
      ((∀ key op, record.filter (·.isFor key op) = record'.filter (·.isFor key op)) →
        doc = doc') := by
  constructor
  · simp only [compiles_iff, hperm.mem_iff]
  · intro doc doc' h h'
    refine ⟨keys_of_perm hperm h h', isSome_value?_of_perm hperm h h', fun horder => ?_⟩
    refine (wellFormed_of_compile h).ext (wellFormed_of_compile h') fun key op => ?_
    rw [value?_compile h, value?_compile h', Descriptor.lastFor?, Descriptor.lastFor?, horder]

end

/-- Two fields for one key and operator. -/
def ageFrom : List Descriptor := [
  ⟨"from", "age", "$gte", .scalar (.signed .w32 18)⟩,
  ⟨"least", "age", "$gte", .scalar (.signed .w32 21)⟩]

/-- A field for another operator of the same key. -/
def ageBelow : List Descriptor := [⟨"below", "age", "$lt", .scalar (.signed .w32 65)⟩]

/-- A sibling operator may be declared before or after two fields that collide. -/
theorem compile_perm_sibling :
    (ageFrom ++ ageBelow).Perm (ageBelow ++ ageFrom) ∧
      ∃ doc doc', standard.compile (ageFrom ++ ageBelow) = .ok doc ∧
        standard.compile (ageBelow ++ ageFrom) = .ok doc' ∧ doc = doc' := by
  have hperm : (ageFrom ++ ageBelow).Perm (ageBelow ++ ageFrom) := List.perm_append_comm
  refine ⟨hperm, _, _, rfl, rfl, ?_⟩
  refine ((compile_perm standard _ _ hperm).2 _ _ rfl rfl).2.2 fun key op => ?_
  rw [List.filter_append, List.filter_append]
  -- no operator is that of fields from both parts, so one of the two is not concerned
  by_cases hop : op = .lt
  · have hnone : ageFrom.filter (·.isFor key op) = [] := by
      simp [ageFrom, Descriptor.isFor, Operator.tag, hop]
    rw [hnone, List.append_nil, List.nil_append]
  · have htag : "$lt" ≠ op.tag := fun h => hop (Operator.tag_injective h.symm)
    have hnone : ageBelow.filter (·.isFor key op) = [] := by
      simp [ageBelow, Descriptor.isFor, htag]
    rw [hnone, List.append_nil, List.nil_append]

end Options

end RecordQuery
