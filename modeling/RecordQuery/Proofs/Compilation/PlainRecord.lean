import RecordQuery.Plain
import RecordQuery.Compilation
import RecordQuery.Proofs.Builder.Runs

/-!
# Records of plain contents

A plain content has two ways into a document: as the value of a condition that is added to a
builder, or in a field of a record that is compiled.  The second way asks more questions, about a
tag and about the zero state, and converts the content by another function.  This file shows that
the ways meet.

* `Plain.value_toField` — the two conversions give the same value, floating-point numbers bit for
  bit.
* `Entry` — a content with a key and an operator, which can be read as a field
  (`Entry.descriptor`) and as a condition (`Entry.condition`).
* **`Options.compileInto_entries`** — compiling the fields is a run of the builder that adds the
  conditions of the set ones.

The simulation needs no invariant: every tag is that of an operator here, so the compilation never
looks into its builder, and each step of it is an addition or nothing.  It therefore holds from any
builder, one with a fault included.
-/

namespace RecordQuery

namespace Plain

mutual

/-- **The field of a plain content has the value of the content.** -/
theorem value_toField : ∀ p : Plain, p.toField.value = p.toValue
  | scalar s => by rw [toField, Field.value, toValue, s.fieldValue_eq_toValue]
  | borrowed _ => by rw [toField, Field.value, Field.value, Scalar.fieldValue, toValue]
  | list items => by rw [toField, Field.value, values_toFields items, toValue]

lemma values_toFields : ∀ ps : List Plain, Field.values (toFields ps) = toValues ps
  | [] => by rw [toFields, Field.values, toValues]
  | p :: ps => by rw [toFields, Field.values, value_toField p, values_toFields ps, toValues]

end

end Plain

/-- A plain content with a name, a key and an operator. -/
structure Entry where
  /-- the name of the field that holds it -/
  name : String
  /-- the key -/
  key : String
  /-- how to compare -/
  operator : Operator
  /-- the content -/
  content : Plain

namespace Entry

/-- The entry as a field of a record. -/
def descriptor (e : Entry) : Descriptor := ⟨e.name, e.key, e.operator.tag, e.content.toField⟩

/-- The entry as a condition. -/
def condition (e : Entry) : Condition := ⟨e.key, e.operator, e.content.toValue⟩

/-- The content is not in its zero state. -/
def isSet (e : Entry) : Bool := !e.content.toField.isUnset

/-- The conditions of the set entries, added in their order. -/
def steps (entries : List Entry) : List Builder.Step :=
  (entries.filter isSet).map fun e => .add e.condition

end Entry

namespace Options

variable [PatternJudge]

/-- The step at an entry: its condition is added if it is set. -/
lemma compileInto_entry (o : Options) (b : Builder) (e : Entry) (record : List Descriptor) :
    o.compileInto b (e.descriptor :: record)
      = o.compileInto (if e.isSet then b.add e.condition else b) record := by
  have htag : Operator.ofTag? e.descriptor.tag = some e.operator := Operator.ofTag?_tag e.operator
  have hvalue : e.descriptor.field.value = e.content.toValue := e.content.value_toField
  rw [compileInto, htag, hvalue]
  cases hu : e.content.toField.isUnset with
  | true => simp [Entry.isSet, Entry.descriptor, hu]
  | false => simp [Entry.isSet, Entry.descriptor, Entry.condition, hu]

/-- **Compiling entries is a run of the builder.** -/
theorem compileInto_entries (o : Options) (b : Builder) (entries : List Entry) :
    o.compileInto b (entries.map Entry.descriptor) = (b.run (Entry.steps entries)).build := by
  induction entries generalizing b with
  | nil => rfl
  | cons e es ih =>
      rw [List.map_cons, compileInto_entry, ih, Entry.steps, Entry.steps]
      cases hs : e.isSet with
      | true => rw [List.filter_cons_of_pos hs, List.map_cons, Builder.run_cons, if_pos rfl,
          Builder.step]
      | false => simp [hs]

/-- **The two ways of plain contents meet.**  A record of them is compiled like their conditions
are built, without those of unset contents: to the same document, or to the same fault.  The value
that stands in the field is the value of the condition. -/
theorem compile_plain_record (o : Options) (entries : List Entry) :
    o.compile (entries.map Entry.descriptor)
      = (Builder.new.run (.checkPatterns o.checkPatterns :: Entry.steps entries)).build ∧
    ∀ p : Plain, p.toField.value = p.toValue := by
  constructor
  · rw [compile, compileInto_entries, Builder.run_cons, Builder.step]
  · exact Plain.value_toField

end Options

end RecordQuery
