import RecordQuery.Proofs.Table.Rows

/-!
# Edits that leave a table alone

A declaration can be written in many ways that ought to come to the same table.  This file edits it
in one place (`Place.fill`) and says which edits nobody notices.

* Attributes that are no directives come and go, as do commas behind the last clause: the answer
  stays, be it a table or a fault.
* Clauses that change places may bring another fault to the front, but no fault appears and none
  vanishes.  The table stays if the keys keep their order among themselves, and the tags theirs.
* A skipped field leaves without a trace, if there is a table.

A loop over fields sees a field through its row, and the row depends on the name, the fault and
what the clauses say together (`Declaration.table_fill_congr`).  So an edit is understood as soon as
it is known what it does to these.
-/

namespace RecordQuery

namespace Member

/-- The clauses of a field, those of one of its attributes among them. -/
lemma clauses_mk (name path : String) (before behind : List Attribute) (b : AttributeBody) :
    (⟨name, before ++ ⟨path, b⟩ :: behind⟩ : Member).clauses
      = (⟨name, before⟩ : Member).clauses ++
        ((if path = Directive.path then b.clauses else []) ++
          (⟨name, behind⟩ : Member).clauses) := by
  simp only [clauses, directives, List.filter_append]
  by_cases hpath : path = Directive.path <;> simp [Attribute.isDirective, hpath]

end Member

lemma Directive.ofClauses_congr {clauses clauses' : List Clause} (hperm : clauses.Perm clauses')
    (hkeys : clauses.filterMap Clause.key? = clauses'.filterMap Clause.key?)
    (htags : clauses.filterMap Clause.tag? = clauses'.filterMap Clause.tag?)
    (before behind : List Clause) :
    ofClauses (before ++ (clauses ++ behind)) = ofClauses (before ++ (clauses' ++ behind)) := by
  have hskip := ((hperm.append_right behind).append_left before).any_eq (f := Clause.isSkip)
  simp only [ofClauses, List.filterMap_append, hkeys, htags, hskip]

/-! ## Places -/

/-- A place among the attributes of a field of a declaration. -/
structure Place where
  shape : Shape
  /-- the fields above -/
  above : List Member
  /-- the name of the field -/
  name : String
  before : List Attribute
  behind : List Attribute
  /-- the fields below -/
  below : List Member

namespace Place

/-- The field with the given attributes at the place. -/
def member (p : Place) (attributes : List Attribute) : Member :=
  ⟨p.name, p.before ++ attributes ++ p.behind⟩

/-- **The declaration with the given attributes at the place.** -/
def fill (p : Place) (attributes : List Attribute) : Declaration :=
  ⟨p.shape, p.above ++ p.member attributes :: p.below⟩

end Place

namespace Declaration

variable {p : Place} {attributes attributes' : List Attribute} {args args' : Arguments}

/-- **A loop over fields sees a field through its row**, and the row depends on the name, the fault
and what the clauses say together. -/
lemma table_fill_congr (hfault : (p.member attributes).fault? = (p.member attributes').fault?)
    (hsay : Directive.ofClauses (p.member attributes).clauses
      = .ofClauses (p.member attributes').clauses) :
    (p.fill attributes).table = (p.fill attributes').table := by
  have hrow : (p.member attributes).row? = (p.member attributes').row? := by
    rw [Member.row?_eq, Member.row?_eq, Member.declared?, Member.declared?, Member.directive_eq,
      Member.directive_eq, hfault, hsay]
    rfl
  simp only [Place.fill, table, List.mapM_append, List.mapM_cons, hrow]

/-- Attributes that are no directives leave with no consequence. -/
lemma table_fill_filter (p : Place) (attributes : List Attribute) :
    (p.fill attributes).table = (p.fill (attributes.filter (·.isDirective))).table := by
  have hdirectives : (p.member attributes).directives
      = (p.member (attributes.filter (·.isDirective))).directives := by
    simp only [Member.directives, Place.member, List.filter_append, List.filter_filter,
      Bool.and_self]
  refine table_fill_congr ?_ ?_
  · rw [Member.fault?, Member.fault?, hdirectives]
  · rw [Member.clauses, Member.clauses, hdirectives]

lemma table_fill_comma (h : args.clauses = args'.clauses) (p : Place) (path : String) :
    (p.fill [⟨path, .arguments args⟩]).table = (p.fill [⟨path, .arguments args'⟩]).table := by
  refine table_fill_congr ?_ ?_
  · simp only [Place.member, List.append_assoc, List.singleton_append]
    refine Member.fault?_replace ?_ ..
    rw [AttributeBody.fault?, AttributeBody.fault?, h]
  · simp only [Place.member, List.append_assoc, List.singleton_append, Member.clauses_mk,
      AttributeBody.clauses, h]

lemma fault?_fill_eq_none_iff {path : String} {b b' : AttributeBody}
    (h : b.fault? = none ↔ b'.fault? = none) :
    (p.fill [⟨path, b⟩]).fault? = none ↔ (p.fill [⟨path, b'⟩]).fault? = none := by
  have hmember : (p.member [⟨path, b⟩]).fault? = none ↔ (p.member [⟨path, b'⟩]).fault? = none := by
    simp only [Member.fault?_eq_none_iff, Member.directives, Place.member, List.filter_append]
    by_cases hpath : path = Directive.path
    · simp [Attribute.isDirective, hpath, h, or_imp, forall_and]
    · simp [Attribute.isDirective, hpath]
  simp only [fault?_eq_none_iff, Place.fill, List.forall_mem_append, List.forall_mem_cons, hmember]

lemma exists_table_fill_iff_of_perm (hperm : args.clauses.Perm args'.clauses) (path : String) :
    (∃ rows, (p.fill [⟨path, .arguments args⟩]).table = .ok rows)
      ↔ ∃ rows, (p.fill [⟨path, .arguments args'⟩]).table = .ok rows := by
  rw [exists_table_iff, exists_table_iff]
  refine fault?_fill_eq_none_iff ?_
  simp only [AttributeBody.fault?_arguments_eq_none_iff, hperm.mem_iff]

/-- Clauses that change places leave a table alone if keys and tags keep their order. -/
lemma table_fill_of_perm (hperm : args.clauses.Perm args'.clauses)
    (hkeys : args.clauses.filterMap Clause.key? = args'.clauses.filterMap Clause.key?)
    (htags : args.clauses.filterMap Clause.tag? = args'.clauses.filterMap Clause.tag?)
    {path : String} {rows : List Row} (h : (p.fill [⟨path, .arguments args⟩]).table = .ok rows) :
    (p.fill [⟨path, .arguments args'⟩]).table = .ok rows := by
  have hfine := exists_table_iff.mp ⟨rows, h⟩
  have hfine' := exists_table_iff.mp ((exists_table_fill_iff_of_perm hperm path).mp ⟨rows, h⟩)
  have hmember : ∀ {as}, (p.fill as).fault? = none → (p.member as).fault? = none :=
    fun h => (fault?_eq_none_iff.mp h).2 _ (by simp [Place.fill])
  rw [← h]
  refine table_fill_congr ?_ ?_
  · rw [hmember hfine, hmember hfine']
  · simp only [Place.member, List.append_assoc, List.singleton_append, Member.clauses_mk]
    by_cases hpath : path = Directive.path
    · rw [if_pos hpath, if_pos hpath]
      exact (Directive.ofClauses_congr hperm hkeys htags ..).symm
    · rw [if_neg hpath, if_neg hpath]

lemma table_erase_skipped {shape : Shape} {above below : List Member} {m : Member}
    {rows : List Row} (hskip : m.isSkipped = true)
    (h : (⟨shape, above ++ m :: below⟩ : Declaration).table = .ok rows) :
    (⟨shape, above ++ below⟩ : Declaration).table = .ok rows := by
  rw [table_eq, elim_eq_ok_iff, fault?_eq_none_iff] at h ⊢
  simp only [List.forall_mem_append, List.forall_mem_cons, List.filterMap_append,
    List.filterMap_cons] at h ⊢
  obtain ⟨⟨hshape, habove, hm, hbelow⟩, hrows⟩ := h
  rw [Member.declared?_of_fine hm, hskip] at hrows
  exact ⟨⟨hshape, habove, hbelow⟩, hrows⟩

/-- **What a table does not depend on.**  At any place of a declaration:

1. Among any attributes, those with another path than `filter` can be left out.  The answer is the
   same, be it a table or a fault.
2. So it is with and without a comma behind the last clause of an attribute.
3. Clauses that change places, with or without a comma behind the last one, do not decide whether
   there is a table.  If there is one, it is the same if the keys keep their order among themselves,
   and the tags theirs.
4. If there is a table, it is the same without a skipped field. -/
theorem table_unaffected (p : Place) :
    (∀ attributes, (p.fill attributes).table
      = (p.fill (attributes.filter (·.path = "filter"))).table) ∧
    (∀ path (args args' : Arguments), args.clauses = args'.clauses →
      (p.fill [⟨path, .arguments args⟩]).table = (p.fill [⟨path, .arguments args'⟩]).table) ∧
    (∀ path (args args' : Arguments), args.clauses.Perm args'.clauses →
      ((∃ rows, (p.fill [⟨path, .arguments args⟩]).table = .ok rows) ↔
        ∃ rows, (p.fill [⟨path, .arguments args'⟩]).table = .ok rows) ∧
      (args.clauses.filterMap Clause.key? = args'.clauses.filterMap Clause.key? →
        args.clauses.filterMap Clause.tag? = args'.clauses.filterMap Clause.tag? →
        ∀ rows, (p.fill [⟨path, .arguments args⟩]).table = .ok rows →
          (p.fill [⟨path, .arguments args'⟩]).table = .ok rows)) ∧
    ∀ attributes rows, (p.member attributes).isSkipped = true →
      (p.fill attributes).table = .ok rows →
        (⟨p.shape, p.above ++ p.below⟩ : Declaration).table = .ok rows := by
  refine ⟨table_fill_filter p, fun path args args' h => table_fill_comma h p path,
    fun path args args' hperm => ⟨exists_table_fill_iff_of_perm hperm path, ?_⟩,
    fun attributes rows => table_erase_skipped⟩
  exact fun hkeys htags rows => table_fill_of_perm hperm hkeys htags

/-- A place between a field without directive and a skipped one. -/
def between : Place where
  shape := .namedFields
  above := [⟨"plain", []⟩]
  name := "least"
  before := [⟨"doc", .assigned⟩]
  behind := [⟨"a::filter", .bare⟩]
  below := [⟨"page", [⟨"filter", .arguments ⟨[.word "skip"], false, nofun⟩⟩]⟩]

/-- Two keys of which the last counts, with a tag between them or before them. -/
theorem table_unaffected_between :
    let clauses : List Clause := [.assignment "key" (.text "years"),
      .assignment "op" (.text "$gte"), .assignment "key" (.text "age")]
    let plain : Attribute := ⟨"filter", .arguments ⟨clauses, false, nofun⟩⟩
    let comma : Attribute := ⟨"filter", .arguments ⟨clauses, true, fun _ => nofun⟩⟩
    let clauses' : List Clause := [.assignment "op" (.text "$gte"),
      .assignment "key" (.text "years"), .assignment "key" (.text "age")]
    let other : Attribute := ⟨"filter", .arguments ⟨clauses', true, fun _ => nofun⟩⟩
    let rows : List Row := [⟨"plain", "plain", "", "plain"⟩, ⟨"least", "age", "$gte", "least"⟩]
    let skip : Attribute := ⟨"filter", .arguments ⟨[.word "skip"], false, nofun⟩⟩
    (between.fill [⟨"cfg", .bare⟩, comma]).table = (between.fill [comma]).table ∧
      (between.fill [comma]).table = (between.fill [plain]).table ∧
      clauses.Perm clauses' ∧
      (between.fill [comma]).table = .ok rows ∧ (between.fill [other]).table = .ok rows ∧
      (between.fill [skip]).table = .ok [⟨"plain", "plain", "", "plain"⟩] ∧
      (⟨.namedFields, between.above ++ between.below⟩ : Declaration).table
        = .ok [⟨"plain", "plain", "", "plain"⟩] := by
  intro clauses plain comma clauses' other rows skip
  obtain ⟨hforeign, hcomma, hplaces, hskipped⟩ := table_unaffected between
  have hperm : clauses.Perm clauses' := .swap ..
  have htable : (between.fill [comma]).table = .ok rows := rfl
  have hskip : (between.fill [skip]).table = .ok [⟨"plain", "plain", "", "plain"⟩] := rfl
  have hother : (between.fill [other]).table = .ok rows :=
    (hplaces "filter" ⟨clauses, true, fun _ => nofun⟩ ⟨clauses', true, fun _ => nofun⟩ hperm).2
      rfl rfl rows htable
  exact ⟨hforeign [⟨"cfg", .bare⟩, comma], hcomma "filter" _ _ rfl, hperm, htable, hother, hskip,
    hskipped [skip] _ rfl hskip⟩

end Declaration

end RecordQuery
