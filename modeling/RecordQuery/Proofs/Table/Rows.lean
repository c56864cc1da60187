import RecordQuery.Proofs.Compilation.LastWrite
import RecordQuery.Proofs.Table.FirstFault

/-!
# The rows of a descriptor table

When no fault stops it, a table has a row for every field that is not skipped, in the order of the
fields (**`Declaration.table_rows`**).  A field can say several things about its key, and be skipped
anywhere among them; of all that, `Member.isSkipped` and `Member.row` keep what counts.

* `Declaration.table_eq_ok_iff` — when there is a table, and which.
* `Member.row_key_ne_empty` — a key is never empty, as long as fields have names.  An empty text
  cannot be declared, and the name is what a field without a key falls back upon.

The second point reaches into the documents: whatever the values and the options are, the empty key
is in none that is compiled from the table.
-/

namespace RecordQuery

namespace Member

variable {m : Member}

lemma exists_directive_iff : (∃ a, m.directive = .ok a) ↔ m.fault? = none := by
  rw [directive_eq]
  cases m.fault? <;> simp

/-- One of the clauses of the field is `skip`. -/
def isSkipped (m : Member) : Bool := m.clauses.any Clause.isSkip

/-- **The row of a field** that is not skipped.  Of several keys and of several tags the last
counts. -/
def row (m : Member) : Row where
  name := m.name
  key := (m.clauses.filterMap Clause.key?).getLast?.getD m.name
  tag := (m.clauses.filterMap Clause.tag?).getLast?.getD ""
  source := m.name

lemma declared?_of_fine (h : m.fault? = none) :
    m.declared? = if m.isSkipped then none else some m.row := by
  have hdirective : m.directive = .ok (.ofClauses m.clauses) := by
    rw [directive_eq, h]
    rfl
  rw [declared?_of_directive hdirective]
  rfl

/-- A fine field carries no directive or one with clauses in parentheses. -/
lemma directives_of_fine (h : m.fault? = none) :
    (m.directives = [] ∧ m.clauses = []) ∨
      ∃ args, m.directives = [⟨Directive.path, .arguments args⟩] ∧ m.clauses = args.clauses := by
  obtain ⟨hlength, hbodies⟩ := fault?_eq_none_iff.mp h
  unfold clauses
  cases hdirectives : m.directives with
  | nil => exact .inl ⟨rfl, rfl⟩
  | cons a others =>
      rw [hdirectives] at hlength hbodies
      obtain rfl : others = [] := by simpa using hlength
      have hmem : a ∈ m.directives := by simp [hdirectives]
      have hpath : a.path = Directive.path := of_decide_eq_true (List.mem_filter.mp hmem).2
      have hbody := hbodies a List.mem_cons_self
      obtain ⟨path, body⟩ := a
      obtain rfl : path = Directive.path := hpath
      cases body with
      | bare => exact absurd hbody (by simp [AttributeBody.fault?])
      | assigned => exact absurd hbody (by simp [AttributeBody.fault?])
      | arguments args => exact .inr ⟨args, rfl, List.flatMap_singleton ..⟩

lemma fine_of_mem_clauses (h : m.fault? = none) {c : Clause} (hc : c ∈ m.clauses) :
    c.fault? = none := by
  obtain ⟨a, ha, hc⟩ := List.mem_flatMap.mp hc
  have hbody := (fault?_eq_none_iff.mp h).2 a ha
  cases hb : a.body with
  | bare | assigned => simp [hb, AttributeBody.clauses] at hc
  | arguments args =>
      rw [hb] at hbody hc
      exact AttributeBody.fault?_arguments_eq_none_iff.mp hbody c hc

end Member

/-- **No row has an empty key.** -/
lemma Member.row_key_ne_empty {m : Member} (h : m.fault? = none) (hname : m.name ≠ "") :
    m.row.key ≠ "" := by
  rw [row]
  cases hlast : (m.clauses.filterMap Clause.key?).getLast? with
  | none => exact hname
  | some s =>
      -- the clause that declares the last key is fine, so its text is not empty
      obtain ⟨c, hc, hkey⟩ := List.mem_filterMap.mp (List.mem_of_getLast? hlast)
      obtain rfl := Clause.key?_eq_some_iff.mp hkey
      have hfine := fine_of_mem_clauses h hc
      rintro rfl
      exact absurd hfine (by simp [Clause.fault?])

namespace Declaration

variable {d : Declaration} {rows : List Row}

/-- **A declaration has a table** iff it is a structure with named fields whose directives are all
fine, and the table has the rows of these fields. -/
theorem table_eq_ok_iff :
    d.table = .ok rows ↔ d.shape = .namedFields ∧
      (∀ m ∈ d.members, ∃ a, m.directive = .ok a) ∧
      rows = d.members.filterMap Member.declared? := by
  simp only [table_eq, elim_eq_ok_iff, fault?_eq_none_iff, Member.exists_directive_iff, and_assoc]

lemma fine_of_table (h : d.table = .ok rows) : ∀ m ∈ d.members, m.fault? = none :=
  (fault?_eq_none_iff.mp (exists_table_iff.mp ⟨rows, h⟩)).2

lemma rows_eq (h : d.table = .ok rows) :
    rows = (d.members.filter fun m => !m.isSkipped).map Member.row := by
  obtain ⟨_, _, rfl⟩ := table_eq_ok_iff.mp h
  rw [← List.filterMap_eq_map, List.filterMap_filter]
  refine List.filterMap_congr fun m hm => ?_
  rw [Member.declared?_of_fine (fine_of_table h m hm)]
  cases m.isSkipped <;> rfl

lemma not_mem_keys_of_rows [PatternJudge] {o : Options} {contents : String → Field}
    {doc : Document} {key : String} (h : ∀ r ∈ rows, r.key ≠ key)
    (hdoc : o.compile (Row.describeAll contents rows) = .ok doc) : key ∉ doc.keys := by
  rw [Options.mem_keys_compile hdoc]
  intro hmem
  obtain ⟨d, hd, rfl⟩ := List.mem_map.mp hmem
  obtain ⟨r, hr, rfl⟩ := List.mem_map.mp (List.mem_filter.mp hd).1
  exact h r hr rfl

/-- **The rows of a table.**

1. There is one for every field that is not skipped, in the order of the fields.
2. Every field carries no directive or a single one, so the clauses that a row is made of are those
   of that one.
3. If all fields have names, no row has the empty key, and no document that is compiled from the
   rows has it, for whatever values and under whatever options. -/
theorem table_rows [PatternJudge] (d : Declaration) (rows : List Row) (h : d.table = .ok rows) :
    rows = (d.members.filter fun m => !m.isSkipped).map Member.row ∧
    (∀ m ∈ d.members, (m.directives = [] ∧ m.clauses = []) ∨
      ∃ args, m.directives = [⟨"filter", .arguments args⟩] ∧ m.clauses = args.clauses) ∧
    ((∀ m ∈ d.members, m.name ≠ "") →
      (∀ r ∈ rows, r.key ≠ "") ∧
      ∀ (o : Options) (contents : String → Field) (doc : Document),
        o.compile (Row.describeAll contents rows) = .ok doc → "" ∉ doc.keys) := by
  have hfine := fine_of_table h
  refine ⟨rows_eq h, fun m hm => Member.directives_of_fine (hfine m hm), fun hnames => ?_⟩
  have hkeys : ∀ r ∈ rows, r.key ≠ "" := by
    intro r hr
    rw [rows_eq h] at hr
    obtain ⟨m, hm, rfl⟩ := List.mem_map.mp hr
    obtain ⟨hm, _⟩ := List.mem_filter.mp hm
    exact Member.row_key_ne_empty (hfine m hm) (hnames m hm)
  exact ⟨hkeys, fun o contents doc => not_mem_keys_of_rows hkeys⟩

/-- A declaration whose first field declares a key and a tag twice, with another attribute before
the directive; the second field is skipped in spite of what else it declares, and the third one
declares nothing. -/
def listing : Declaration where
  shape := .namedFields
  members := [
    ⟨"least", [⟨"doc", .assigned⟩, ⟨"filter", .arguments ⟨[.assignment "key" (.text "years"),
      .assignment "op" (.text "$eq"), .assignment "key" (.text "age"),
      .assignment "op" (.text "$gte")], true, fun _ => nofun⟩⟩]⟩,
    ⟨"page", [⟨"filter", .arguments ⟨[.assignment "key" (.text "p"), .word "skip",
      .assignment "op" (.text "$near")], false, nofun⟩⟩, ⟨"serde::skip", .bare⟩]⟩,
    ⟨"plain", []⟩]

/-- The table of `listing`, and an instance that compiles because its last field is unset. -/
theorem table_rows_listing :
    let rows : List Row := [⟨"least", "age", "$gte", "least"⟩, ⟨"plain", "plain", "", "plain"⟩]
    let contents : String → Field := fun name =>
      .scalar (if name = "least" then .signed .w32 18 else .string "")
    listing.table = .ok rows ∧
      rows = (listing.members.filter fun m => !m.isSkipped).map Member.row ∧
      (∀ m ∈ listing.members, m.name ≠ "") ∧ (∀ r ∈ rows, r.key ≠ "") ∧
      ∃ doc, Options.compile ⟨false, false⟩ (Row.describeAll contents rows) = .ok doc ∧
        doc.keys = ["age"] ∧ "" ∉ doc.keys := by
  intro rows contents
  have htable : listing.table = .ok rows := rfl
  have hnames : ∀ m ∈ listing.members, m.name ≠ "" := by decide
  obtain ⟨hrows, _, hkeys⟩ := table_rows listing rows htable
  obtain ⟨hkeys, hdocs⟩ := hkeys hnames
  exact ⟨htable, hrows, hnames, hkeys, _, rfl, rfl, hdocs ⟨false, false⟩ contents _ rfl⟩

end Declaration

end RecordQuery
