import RecordQuery.Json
import RecordQuery.Proofs.Parts

/-!
# What is in a JSON tree

* `Json.Contains` — what is found in a tree at any depth, the tree itself included.
* `Json.HasMember` — the members of an object.  With unique names (`Json.NamesUnique`) this makes
  a map of it.
* `Json.Below` — what is found below the second level of names, which in a query is the level of
  the operators.
-/

namespace RecordQuery.Json

/-- **The parts of a tree**: items, or the values of members. -/
def parts : Json → List Json
  | null | boolean _ | integer _ | float _ | string _ => []
  | array items => items
  | object members => members.map (·.2)

lemma sizeOf_lt_of_mem_parts (j : Json) : ∀ k ∈ j.parts, sizeOf k < sizeOf j := by
  intro k h
  cases j with
  | null | boolean _ | integer _ | float _ | string _ => exact absurd h List.not_mem_nil
  | array items =>
      have hlt : sizeOf k < sizeOf items := List.sizeOf_lt_of_mem h
      rw [array.sizeOf_spec]
      omega
  | object members =>
      obtain ⟨⟨name, k⟩, hmem, rfl⟩ := List.mem_map.mp h
      have hlt : sizeOf (name, k) < sizeOf members := List.sizeOf_lt_of_mem hmem
      rw [Prod.mk.sizeOf_spec] at hlt
      change sizeOf k < _
      rw [object.sizeOf_spec]
      omega

/-- **The second tree is found in the first one.** -/
abbrev Contains (j k : Json) : Prop := Within parts j k

/-- The tree is an object with such a member. -/
def HasMember (j : Json) (name : String) (value : Json) : Prop :=
  ∃ members, j = .object members ∧ (name, value) ∈ members

/-- **No object in the tree has two members of one name.** -/
def NamesUnique (j : Json) : Prop :=
  ∀ members, j.Contains (.object members) → (members.map (·.1)).Nodup

/-- There is no floating-point number in the tree. -/
def FloatFree (j : Json) : Prop := ∀ x, ¬ j.Contains (.float x)

/-- **What is found below two levels of names**, at any depth. -/
def Below (j k : Json) : Prop :=
  ∃ key operators tag value,
    j.HasMember key operators ∧ operators.HasMember tag value ∧ value.Contains k

lemma FloatFree.part {j k : Json} (h : j.FloatFree) (hpart : k ∈ j.parts) : k.FloatFree :=
  fun x hx => h x (.part hpart hx)

end RecordQuery.Json
