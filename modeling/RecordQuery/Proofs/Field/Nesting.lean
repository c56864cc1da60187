import RecordQuery.Proofs.Field.Absence
import RecordQuery.Proofs.Value.Tree

/-!
# Nested fields

The unset state and the value of a field are two recursions over one tree, and they treat what they
meet differently.  This file says what each of them sees, however deep the nesting.

**The unset state** looks through references and through arrays, and at nothing else.  What it comes
upon below these is the bottom of the field (`Field.bottom`), and the field is unset iff everything
there is (`Field.isUnset_iff_bottom`).  A list or a slice is at the bottom as a whole: its elements
are never asked.

**The value** goes through everything, and of all the nesting it shows only that there are
sequences.  Hence a field may be edited anywhere in the tree (`Surroundings.fill`): a reference is
put in or taken out, an option that is present is opened, one kind of container is exchanged for
another, and the value stays.  Only the first of these edits leaves the unset state alone as well.
-/

namespace RecordQuery

/-- The kinds of containers. -/
inductive Container
  | array
  | slice
  | list
  deriving DecidableEq, Repr

def Container.wrap : Container → List Field → Field
  | array => .array
  | slice => .slice
  | list => .list

/-- **A tree with one field missing**, from the outside to the place of that field. -/
inductive Surroundings
  /-- the place itself -/
  | place
  /-- behind a reference -/
  | reference (inner : Surroundings)
  /-- in an option that is present -/
  | present (inner : Surroundings)
  /-- in a container, between other elements -/
  | element (kind : Container) (before : List Field) (inner : Surroundings) (behind : List Field)

/-- **The tree with a field at the place.** -/
def Surroundings.fill : Surroundings → Field → Field
  | place, f => f
  | reference inner, f => .reference (inner.fill f)
  | present inner, f => .present (inner.fill f)
  | element kind before inner behind, f => kind.wrap (before ++ inner.fill f :: behind)

namespace Field

/-! ## The value -/

@[simp] lemma value_reference (f : Field) : (reference f).value = f.value := rfl

@[simp] lemma value_present (f : Field) : (present f).value = f.value := rfl

/-- **One item for each element**, in their order, unset elements included. -/
@[simp] lemma value_wrap (kind : Container) (fs : List Field) :
    (kind.wrap fs).value = .sequence (fs.map value) := by
  cases kind <;> simp [Container.wrap, value, values_eq_map]

/-- **A tree of values sees a field through its value.** -/
lemma value_fill_congr {f g : Field} (h : f.value = g.value) (s : Surroundings) :
    (s.fill f).value = (s.fill g).value := by
  induction s with
  | place => exact h
  | reference inner ih => exact ih
  | present inner ih => exact ih
  | element kind before inner behind ih => simp [Surroundings.fill, ih]

lemma value_of_mem_parts {f g : Field} (h : g ∈ f.parts) :
    g.value = f.value ∨ g.value ∈ f.value.parts := by
  cases f with
  | scalar _ | custom _ _ | absent => simp [parts] at h
  | reference f | present f =>
      obtain rfl := List.mem_singleton.mp h
      exact .inl rfl
  | array fs | slice fs | list fs =>
      right
      simp only [value, Value.parts, values_eq_map]
      exact List.mem_map_of_mem h

/-- **Nothing gets lost on the way to the value**, at any depth. -/
lemma Reaches.contains_value {f g : Field} (h : f.Reaches g) : f.value.Contains g.value := by
  -- along the way down: a step into a container is a step into a sequence, any other step is none
  induction h with
  | here => exact .here _
  | part hpart _ ih =>
      rcases value_of_mem_parts hpart with heq | hmem
      · exact heq ▸ ih
      · exact .part hmem ih

/-! ## The unset state -/

@[simp] lemma isUnset_reference (f : Field) : (reference f).isUnset = f.isUnset := rfl

/-- **A tree of states sees a field through its state**, if it sees it at all. -/
lemma isUnset_fill_congr {f g : Field} (h : f.isUnset = g.isUnset) (s : Surroundings) :
    (s.fill f).isUnset = (s.fill g).isUnset := by
  induction s with
  | place => exact h
  | reference inner ih => exact ih
  | present inner ih => rfl
  | element kind before inner behind ih =>
      cases kind with
      | array => simp [Surroundings.fill, Container.wrap, isUnset, allUnset_eq_all, ih]
      -- with a field between the others neither is empty
      | slice | list => cases before <;> rfl

mutual

/-- **The bottom of a field**: what stands below its references and its arrays. -/
def bottom : Field → List Field
  | reference f => f.bottom
  | array fs => bottomAll fs
  | f => [f]

def bottomAll : List Field → List Field
  | [] => []
  | f :: fs => f.bottom ++ bottomAll fs

end

lemma bottomAll_eq_flatMap (fs : List Field) : bottomAll fs = fs.flatMap bottom := by
  induction fs with
  | nil => rfl
  | cons f fs ih => simp [bottomAll, ih]

def isBottom : Field → Bool
  | reference _ | array _ => false
  | _ => true

lemma isBottom_of_mem_bottom {f g : Field} (h : g ∈ f.bottom) : g.isBottom = true := by
  induction f using induction_parts sizeOf_lt_of_mem_parts with
  | step f ih =>
  cases f with
  | reference f => exact ih f List.mem_cons_self h
  | array fs =>
      rw [bottom, bottomAll_eq_flatMap] at h
      obtain ⟨f, hf, hg⟩ := List.mem_flatMap.mp h
      exact ih f hf hg
  | _ =>
      obtain rfl := List.mem_singleton.mp h
      rfl

/-- **A field is unset iff everything at its bottom is.** -/
theorem isUnset_iff_bottom (f : Field) :
    f.isUnset = true ↔ ∀ g ∈ f.bottom, g.isUnset = true := by
  induction f using induction_parts sizeOf_lt_of_mem_parts with
  | step f ih =>
  cases f with
  | reference f => exact ih f List.mem_cons_self
  | array fs =>
      simp only [isUnset, allUnset_eq_all, List.all_eq_true, bottom, bottomAll_eq_flatMap,
        List.forall_mem_flatMap]
      exact forall₂_congr ih
  | _ => simp [bottom]

/-- **State and value of nested fields.**  Fields may be nested to any depth:

1. A reference changes neither the state nor the value, wherever it stands.
2. A field is unset iff everything at its bottom is, below all references and arrays.
3. A list or a slice is unset iff it has no elements, and an option that is present never is.
4. The value of a container has one item for each element, in their order.
5. The value of whatever a field is made of, set or not, is found in the value of the field.
6. An option that is present may be opened, and one kind of container exchanged for another,
   anywhere in a field, and its value stays. -/
theorem nested_state_and_value :
    (∀ (s : Surroundings) (f : Field),
      (s.fill (reference f)).isUnset = (s.fill f).isUnset ∧
        (s.fill (reference f)).value = (s.fill f).value) ∧
    (∀ f : Field, (f.isUnset = true ↔ ∀ g ∈ f.bottom, g.isUnset = true) ∧
      ∀ g ∈ f.bottom, g.isBottom = true) ∧
    (∀ fs : List Field, ((list fs).isUnset = true ↔ fs = []) ∧
      ((slice fs).isUnset = true ↔ fs = [])) ∧
    (∀ f : Field, (present f).isUnset = false) ∧
    (∀ (kind : Container) (fs : List Field), (kind.wrap fs).value = .sequence (fs.map value)) ∧
    (∀ f g : Field, f.Reaches g → f.value.Contains g.value) ∧
    (∀ (s : Surroundings) (f : Field), (s.fill (present f)).value = (s.fill f).value) ∧
    ∀ (s : Surroundings) (kind kind' : Container) (fs : List Field),
      (s.fill (kind.wrap fs)).value = (s.fill (kind'.wrap fs)).value := by
  refine ⟨?references, fun f => ⟨isUnset_iff_bottom f, fun g => isBottom_of_mem_bottom⟩,
    ?containers, fun f => rfl, value_wrap, fun f g => Reaches.contains_value, ?options, ?kinds⟩
  case references =>
    intro s f
    exact ⟨isUnset_fill_congr (isUnset_reference f) s, value_fill_congr (value_reference f) s⟩
  case containers =>
    intro fs
    simp [isUnset]
  case options =>
    intro s f
    exact value_fill_congr (value_present f) s
  case kinds =>
    intro s kind kind' fs
    refine value_fill_congr ?_ s
    rw [value_wrap, value_wrap]

/-- Rows of which one has no elements and the other only unset ones. -/
def unsetRows : List Field :=
  [.array [.scalar (.unsigned .w8 0), .reference (.scalar (.string ""))], .array []]

/-- A list of unset rows is set, an array of them is not, and either shows every element. -/
theorem nested_state_and_value_rows :
    (list unsetRows).isUnset = false ∧ (array unsetRows).isUnset = true ∧
      (list unsetRows).value = .sequence [.sequence [.uint 0, .string ""], .sequence []] ∧
      (array unsetRows).value = (list unsetRows).value ∧
      (list unsetRows).Reaches (.scalar (.string "")) ∧
      (list unsetRows).value.Contains (.string "") := by
  obtain ⟨_, hbottom, hlists, _, _, hcontains, _, hkinds⟩ := nested_state_and_value
  have hset : (list unsetRows).isUnset = false := by
    rw [Bool.eq_false_iff, ne_eq, (hlists unsetRows).1]
    exact List.cons_ne_nil _ _
  have hunset : (array unsetRows).isUnset = true := by
    rw [(hbottom _).1]
    simp [bottom, bottomAll, unsetRows, isUnset, Scalar.isUnset]
  have hreaches : (list unsetRows).Reaches (.scalar (.string "")) :=
    .part List.mem_cons_self (.part (.tail _ (.head _)) (.part (.head _) (.here _)))
  exact ⟨hset, hunset, rfl, hkinds .place .array .list unsetRows, hreaches,
    hcontains _ _ hreaches⟩

end Field

end RecordQuery
