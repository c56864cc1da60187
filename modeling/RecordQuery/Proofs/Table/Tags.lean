import RecordQuery.Proofs.Compilation.LastWrite
import RecordQuery.Proofs.Table.Rows

/-!
# Tags are validated once

The tags of a record are part of its declaration, so whether they are in order ought to be known
before there is any value.  It is: **the instance with nothing set tells it for all instances**
(`Declaration.tags_validated_once`).  If that one compiles, no instance can ever fail for a tag; if
it does not, its fault names the first field with a bad tag.  Both depend on the declaration alone,
namely on whether every field that is not skipped declares the tag of an operator
(`Member.Tagged`).

* `Row.tagFault?`, `Member.tagFault?` — what is wrong with the tag of a row and of a field.
* `Row.offence?_describe_eq_iff` — **no value hides a bad tag and none brings one about**, as far as
  the field by itself is concerned.  In an instance with values another fault may come first.
* `Row.compile_describeAll_unset` — with nothing set there is no other fault.

All of this is about compilations that look at the tags of unset fields, with patterns checked or
not.  What the types of the fields admit is left open: any set of instances will do that has one
with nothing set among them.
-/

namespace RecordQuery

lemma findSome?_filterMap {α β γ : Type} (f : α → Option β) (g : β → Option γ) (xs : List α) :
    (xs.filterMap f).findSome? g = xs.findSome? fun x => (f x).bind g := by
  induction xs with
  | nil => rfl
  | cons x xs ih =>
      cases hx : f x with
      | none => simp [hx, ih]
      | some y => simp [hx, ih, List.findSome?_cons]

lemma findSome?_congr {α β : Type} {f g : α → Option β} {xs : List α} (h : ∀ x ∈ xs, f x = g x) :
    xs.findSome? f = xs.findSome? g := by
  induction xs with
  | nil => rfl
  | cons x xs ih =>
      obtain ⟨hx, hxs⟩ := List.forall_mem_cons.mp h
      rw [List.findSome?_cons, List.findSome?_cons, hx, ih hxs]

lemma Operator.ofTag?_getD_eq_none_iff {tag : Option String} :
    ofTag? (tag.getD "") = none ↔ ∀ op : Operator, tag ≠ some op.tag := by
  cases tag with
  | none => exact iff_of_true rfl fun _ => nofun
  | some t =>
      rw [Option.getD_some, Option.eq_none_iff_forall_ne_some]
      simp only [ne_eq, ofTag?_eq_some_iff, Option.some.injEq]

section

variable [PatternJudge]

/-- A condition has an operator, so what is wrong with it is not its tag. -/
lemma Condition.fault?_ne_unsupportedTag {checks : Bool} {tag key : String}
    (c : Condition) : c.fault? checks ≠ some (.unsupportedTag tag key) := by
  intro h
  unfold fault? at h
  split at h
  · simp at h
  · split at h
    · obtain ⟨_, _, _, _, _, hfault⟩ := patternFault?_eq_some_iff.mp h
      simp at hfault
    · simp at h

/-! ## Rows -/

namespace Row

/-- What is wrong with the tag of the row. -/
def tagFault? (r : Row) : Option Fault :=
  match Operator.ofTag? r.tag with
  | none => some (.unsupportedTag r.tag r.key)
  | some _ => none

variable {checks : Bool} {contents : String → Field} {r : Row} {rows : List Row}
  {tag key : String}

lemma offence?_describe_unset (h : (contents r.source).isUnset = true) :
    Options.offence? ⟨true, checks⟩ (r.describe contents) = r.tagFault? := by
  cases htag : Operator.ofTag? r.tag <;> simp [Options.offence?, describe, tagFault?, h, htag]

/-- **A field offends by its tag whatever its value is.** -/
lemma offence?_describe_eq_iff :
    Options.offence? ⟨true, checks⟩ (r.describe contents) = some (.unsupportedTag tag key)
      ↔ r.tagFault? = some (.unsupportedTag tag key) := by
  by_cases hu : (contents r.source).isUnset = true
  · rw [offence?_describe_unset hu]
  · cases htag : Operator.ofTag? r.tag with
    | none => simp [Options.offence?, describe, tagFault?, htag]
    | some op =>
        simp [Options.offence?, describe, tagFault?, htag, hu, Condition.fault?_ne_unsupportedTag]

/-- **The instance with nothing set** answers with its first bad tag, or else with the empty
document. -/
theorem compile_describeAll_unset (checks : Bool)
    (h : ∀ r ∈ rows, (contents r.source).isUnset = true) :
    Options.compile ⟨true, checks⟩ (describeAll contents rows)
      = faultOr (rows.findSome? tagFault?) .empty := by
  have hconditions : (describeAll contents rows).filterMap Descriptor.condition? = [] := by
    refine List.filterMap_eq_nil_iff.mpr fun d hd => ?_
    obtain ⟨r, hr, rfl⟩ := List.mem_map.mp hd
    exact Descriptor.condition?_of_unset (by simp [Descriptor.isSet, describe, h r hr])
  have hoffences : (describeAll contents rows).findSome? (Options.offence? ⟨true, checks⟩)
      = rows.findSome? tagFault? := by
    rw [describeAll, List.findSome?_map]
    exact findSome?_congr fun r hr => offence?_describe_unset (h r hr)
  rw [Options.compile_eq, hconditions, hoffences]
  rfl

lemma exists_tagFault?
    (h : Options.compile ⟨true, checks⟩ (describeAll contents rows)
      = .error (.unsupportedTag tag key)) :
    ∃ r ∈ rows, r.tagFault? ≠ none := by
  obtain ⟨before, d, behind, hsplit, hoffends, _⟩ :=
    List.findSome?_eq_some_iff.mp (Options.compile_eq_error_iff.mp h)
  have hd : d ∈ describeAll contents rows := by simp [hsplit]
  obtain ⟨r, hr, rfl⟩ := List.mem_map.mp hd
  exact ⟨r, hr, by simp [offence?_describe_eq_iff.mp hoffends]⟩

end Row

/-! ## Fields of a declaration -/

namespace Member

/-- **The field is skipped or declares the tag of an operator.** -/
def Tagged (m : Member) : Prop :=
  ∀ a, m.directive = .ok a → a.skip = false → ∃ op : Operator, a.tag = some op.tag

/-- What is wrong with the tag of the row of the field, if it has one. -/
def tagFault? (m : Member) : Option Fault := m.declared?.bind Row.tagFault?

variable {m : Member} {a : Directive} {e : Fault}

/-- Which fields have rows with a bad tag, and what the fault says about them. -/
lemma tagFault?_eq_some_iff (h : m.directive = .ok a) :
    m.tagFault? = some e ↔ a.skip = false ∧ (∀ op : Operator, a.tag ≠ some op.tag) ∧
      e = .unsupportedTag (a.tag.getD "") (a.key.getD m.name) := by
  rw [tagFault?, declared?_of_directive h, Directive.row?, ← Operator.ofTag?_getD_eq_none_iff]
  cases a.skip with
  | true => simp
  | false =>
      cases htag : Operator.ofTag? (a.tag.getD "") with
      | none => simp [Row.tagFault?, htag, eq_comm]
      | some op => simp [Row.tagFault?, htag]

lemma tagged_iff (h : m.directive = .ok a) : m.Tagged ↔ m.tagFault? = none := by
  have htagged : m.Tagged ↔ (a.skip = false → ∃ op : Operator, a.tag = some op.tag) := by
    simp [Tagged, h]
  rw [htagged, Option.eq_none_iff_forall_ne_some]
  simp only [ne_eq, tagFault?_eq_some_iff h]
  constructor
  · rintro hop e ⟨hskip, hno, _⟩
    obtain ⟨op, htag⟩ := hop hskip
    exact hno op htag
  · intro hno hskip
    by_contra hop
    exact hno _ ⟨hskip, fun op htag => hop ⟨op, htag⟩, rfl⟩

end Member

namespace Declaration

variable {d : Declaration} {rows : List Row}

/-- The first bad tag of a table is that of the first field with one. -/
lemma findSome?_rows (h : d.table = .ok rows) :
    rows.findSome? Row.tagFault? = d.members.findSome? Member.tagFault? := by
  obtain ⟨_, _, rfl⟩ := table_eq_ok_iff.mp h
  exact findSome?_filterMap ..

lemma findSome?_rows_eq_none_iff (h : d.table = .ok rows) :
    rows.findSome? Row.tagFault? = none ↔ ∀ m ∈ d.members, m.Tagged := by
  obtain ⟨_, hdirective, _⟩ := table_eq_ok_iff.mp h
  rw [findSome?_rows h, List.findSome?_eq_none_iff]
  refine forall₂_congr fun m hm => ?_
  obtain ⟨a, ha⟩ := hdirective m hm
  exact (Member.tagged_iff ha).symm

/-- **The first field with a bad tag**, and the fault that its row makes. -/
lemma exists_first_untagged (h : d.table = .ok rows) (hbad : ¬ ∀ m ∈ d.members, m.Tagged) :
    ∃ before m behind a, d.members = before ++ m :: behind ∧ (∀ m' ∈ before, m'.Tagged) ∧
      m.directive = .ok a ∧ a.skip = false ∧ (∀ op : Operator, a.tag ≠ some op.tag) ∧
      rows.findSome? Row.tagFault?
        = some (.unsupportedTag (a.tag.getD "") (a.key.getD m.name)) := by
  obtain ⟨_, hdirective, _⟩ := table_eq_ok_iff.mp h
  rw [← findSome?_rows_eq_none_iff h] at hbad
  obtain ⟨e, he⟩ := Option.ne_none_iff_exists'.mp hbad
  have hmembers := he
  rw [findSome?_rows h] at hmembers
  obtain ⟨before, m, behind, hsplit, hm, hbefore⟩ := List.findSome?_eq_some_iff.mp hmembers
  obtain ⟨a, ha⟩ := hdirective m (by simp [hsplit])
  obtain ⟨hskip, hno, rfl⟩ := (Member.tagFault?_eq_some_iff ha).mp hm
  refine ⟨before, m, behind, a, hsplit, fun m' hm' => ?_, ha, hskip, hno, he⟩
  obtain ⟨a', ha'⟩ := hdirective m' (by simp [hsplit, hm'])
  exact (Member.tagged_iff ha').mpr (hbefore m' hm')

/-- **Tags are validated once.**  Take a declaration that has a table, and any instances of it, one
of them with nothing set in the fields that the table reads.

1. That one compiles iff no instance ever fails for a tag.
2. It compiles iff every field that is not skipped declares the tag of an operator.
3. If some field does not, it fails for the first such field, with the key of that field and with
   its tag, which is empty if none is declared. -/
theorem tags_validated_once (checks : Bool) (d : Declaration) (rows : List Row)
    (h : d.table = .ok rows) (instances : (String → Field) → Prop) (unset : String → Field)
    (hinstance : instances unset) (hunset : ∀ r ∈ rows, (unset r.source).isUnset = true) :
    ((∃ doc, Options.compile ⟨true, checks⟩ (Row.describeAll unset rows) = .ok doc) ↔
      ∀ contents, instances contents → ∀ tag key,
        Options.compile ⟨true, checks⟩ (Row.describeAll contents rows)
          ≠ .error (.unsupportedTag tag key)) ∧
    ((∃ doc, Options.compile ⟨true, checks⟩ (Row.describeAll unset rows) = .ok doc) ↔
      ∀ m ∈ d.members, m.Tagged) ∧
    ((¬ ∀ m ∈ d.members, m.Tagged) → ∃ before m behind a,
      d.members = before ++ m :: behind ∧ (∀ m' ∈ before, m'.Tagged) ∧
      m.directive = .ok a ∧ a.skip = false ∧ (∀ op : Operator, a.tag ≠ some op.tag) ∧
      Options.compile ⟨true, checks⟩ (Row.describeAll unset rows)
        = .error (.unsupportedTag (a.tag.getD "") (a.key.getD m.name))) := by
  have hanswer := Row.compile_describeAll_unset checks hunset
  have hcompiles : (∃ doc, Options.compile ⟨true, checks⟩ (Row.describeAll unset rows) = .ok doc)
      ↔ ∀ m ∈ d.members, m.Tagged := by
    rw [← findSome?_rows_eq_none_iff h]
    simp only [hanswer, faultOr_eq_ok_iff, exists_and_left, exists_eq, and_true]
  refine ⟨?once, hcompiles, ?first⟩
  case once =>
    rw [hcompiles]
    constructor
    · intro htagged contents _ tag key hfails
      obtain ⟨r, hr, hbad⟩ := Row.exists_tagFault? hfails
      have hnone := (findSome?_rows_eq_none_iff h).mpr htagged
      exact hbad (List.findSome?_eq_none_iff.mp hnone r hr)
    · intro hnever
      -- the unset instance is among them, and it is the one that a bad tag makes fail
      by_contra hbad
      obtain ⟨_, _, _, _, _, _, _, _, _, hfault⟩ := exists_first_untagged h hbad
      exact hnever unset hinstance _ _ (by rw [hanswer, hfault, faultOr_some])
  case first =>
    intro hbad
    rw [hanswer]
    simpa only [faultOr_eq_error_iff] using exists_first_untagged h hbad

end Declaration

end

namespace Declaration

/-- A declaration with a field in order, one without directive and one that is skipped. -/
def search : Declaration where
  shape := .namedFields
  members := [
    ⟨"least", [⟨"filter", .arguments ⟨[.assignment "key" (.text "age"),
      .assignment "op" (.text "$gte")], false, nofun⟩⟩]⟩,
    ⟨"hidden", [⟨"doc", .assigned⟩, ⟨"filter", .arguments ⟨[.word "skip"], true, fun _ => nofun⟩⟩]⟩,
    ⟨"plain", []⟩]

/-- The instances of `search` whose first field holds a number.  The field without directive is
the one whose tag is bad. -/
theorem tags_validated_once_plain :
    let rows : List Row := [⟨"least", "age", "$gte", "least"⟩, ⟨"plain", "plain", "", "plain"⟩]
    let instances : (String → Field) → Prop := fun contents =>
      ∃ n, contents "least" = .scalar (.signed .w32 n)
    let unset : String → Field := fun _ => .scalar (.signed .w32 0)
    search.table = .ok rows ∧ instances unset ∧ (∀ r ∈ rows, (unset r.source).isUnset = true) ∧
      ((∃ doc, Options.compile ⟨true, true⟩ (Row.describeAll unset rows) = .ok doc) ↔
        ∀ contents, instances contents → ∀ tag key,
          Options.compile ⟨true, true⟩ (Row.describeAll contents rows)
            ≠ .error (.unsupportedTag tag key)) ∧
      (¬ ∀ m ∈ search.members, m.Tagged) ∧
      ∃ m ∈ search.members, ∃ a, m.directive = .ok a ∧
        Options.compile ⟨true, true⟩ (Row.describeAll unset rows)
          = .error (.unsupportedTag (a.tag.getD "") (a.key.getD m.name)) := by
  intro rows instances unset
  have htable : search.table = .ok rows := rfl
  have hinstance : instances unset := ⟨0, rfl⟩
  have hunset : ∀ r ∈ rows, (unset r.source).isUnset = true := fun _ _ => rfl
  have hbad : ¬ ∀ m ∈ search.members, m.Tagged := by
    intro htagged
    obtain ⟨op, hop⟩ := htagged ⟨"plain", []⟩ (by decide) .blank rfl rfl
    exact absurd hop nofun
  obtain ⟨honce, _, hfirst⟩ :=
    tags_validated_once true search rows htable instances unset hinstance hunset
  obtain ⟨before, m, behind, a, hsplit, _, hm, _, _, hfails⟩ := hfirst hbad
  exact ⟨htable, hinstance, hunset, honce, hbad, m, by simp [hsplit], a, hm, hfails⟩

end Declaration

end RecordQuery
