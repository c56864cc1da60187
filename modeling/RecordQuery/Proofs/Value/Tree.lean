import RecordQuery.Proofs.Json.Parts
import RecordQuery.Value.Text

/-!
# The tree of a value

A value and its JSON tree have the same shape: items become items (`Value.parts_toJson`), so what is
found in the tree is the tree of what is found in the value, and nothing else.

* `Value.Contains` — what is found in a value at any depth, the value itself included.
* `Value.render_toJson` — the text of the tree is the text of the value.
* `Value.toJson?_datum` — there is a tree, whatever the value.
* `Value.unsigned` — the value with every signed number that is not negative made unsigned.
* **`Value.toJson_eq_iff`** — this is all that a tree does not tell of a value without
  floating-point numbers.
-/

namespace RecordQuery.Value

/-! ## Parts -/

/-- **The parts of a value**: the items of a sequence. -/
def parts : Value → List Value
  | sequence items => items
  | _ => []

lemma sizeOf_lt_of_mem_parts (v : Value) : ∀ w ∈ v.parts, sizeOf w < sizeOf v := by
  intro w h
  cases v with
  | sequence items =>
      have hlt : sizeOf w < sizeOf items := List.sizeOf_lt_of_mem h
      rw [sequence.sizeOf_spec]
      omega
  | _ => exact absurd h List.not_mem_nil

/-- **The second value is found in the first one.** -/
abbrev Contains (v w : Value) : Prop := Within parts v w

/-- There is no floating-point number in the value. -/
def FloatFree (v : Value) : Prop := ∀ x, ¬ v.Contains (.float x)

lemma FloatFree.part {v w : Value} (h : v.FloatFree) (hpart : w ∈ v.parts) : w.FloatFree :=
  fun x hx => h x (.part hpart hx)

lemma floatFree_of_parts {v : Value} (hv : ∀ x, v ≠ .float x)
    (hparts : ∀ w ∈ v.parts, w.FloatFree) : v.FloatFree := by
  intro x hx
  obtain ⟨w, hw, hx⟩ := (within_iff_of_ne (hv x)).mp hx
  exact hparts w hw x hx

lemma parts_toJson (v : Value) : v.toJson.parts = v.parts.map toJson := by
  cases v with
  | float x =>
      rw [toJson]
      split <;> rfl
  | sequence items => exact toJsonAll_eq_map items
  | _ => rfl

lemma toJson_ne_object (v : Value) (members : List (String × Json)) :
    v.toJson ≠ .object members := by
  cases v with
  | float x =>
      rw [toJson]
      split <;> nofun
  | _ => nofun

/-- **What is found in the tree** is the tree of what is found in the value. -/
lemma contains_toJson_iff {v : Value} {j : Json} :
    v.toJson.Contains j ↔ ∃ w, v.Contains w ∧ w.toJson = j :=
  within_map_iff parts_toJson

/-- **The text of the tree is the text of the value.** -/
theorem render_toJson (v : Value) : v.toJson.render = v.render := by
  induction v using induction_parts sizeOf_lt_of_mem_parts with
  | step v ih =>
  cases v with
  | string _ | int _ | uint _ | boolean _ => rfl
  | float x =>
      rw [toJson, render]
      split
      · rfl
      · next hinfinite => rw [Json.render, Json.renderFloat, if_neg hinfinite]
  | sequence items =>
      have hitems : items.map (Json.render ∘ toJson) = items.map render := List.map_congr_left ih
      rw [toJson, render, Json.render, Json.renderItems_eq_map, toJsonAll_eq_map, List.map_map,
        hitems, renderAll_eq_map]

/-- **Every value has a tree.** -/
theorem toJson?_datum (v : Value) : v.datum.toJson? = .ok v.toJson := by
  induction v using induction_parts sizeOf_lt_of_mem_parts with
  | step v ih =>
  cases v with
  | sequence items =>
      rw [datum, datumAll_eq_map, toJson, toJsonAll_eq_map]
      exact Datum.toJson?_sequence ih
  | _ => rfl

/-! ## Signedness -/

mutual

/-- **Signed numbers made unsigned** where they are not negative. -/
def unsigned : Value → Value
  | int n => if 0 ≤ n.toInt then uint n.toUInt64 else int n
  | sequence items => sequence (unsignedAll items)
  | v => v

/-- The same for the items of a sequence. -/
def unsignedAll : List Value → List Value
  | [] => []
  | v :: vs => v.unsigned :: unsignedAll vs

end

lemma unsignedAll_eq_map (items : List Value) : unsignedAll items = items.map unsigned := by
  induction items with
  | nil => rfl
  | cons v vs ih => simp [unsignedAll, ih]

lemma toNat_toUInt64 {n : Int64} (h : 0 ≤ n.toInt) : (n.toUInt64.toNat : Int) = n.toInt := by
  have hnat : n.toUInt64.toNat = n.toBitVec.toNat := rfl
  have hint : n.toInt = n.toBitVec.toInt := rfl
  have hlt := n.toBitVec.isLt
  rw [hint, BitVec.toInt_eq_toNat_cond] at h ⊢
  rw [hnat]
  split at h <;> omega

lemma toJson_unsigned (v : Value) : v.unsigned.toJson = v.toJson := by
  induction v using induction_parts sizeOf_lt_of_mem_parts with
  | step v ih =>
  cases v with
  | string _ | uint _ | float _ | boolean _ => rfl
  | int n =>
      rw [unsigned]
      split
      · next hpos => rw [toJson, toJson, toNat_toUInt64 hpos]
      · rfl
  | sequence items =>
      have hitems : items.map (toJson ∘ unsigned) = items.map toJson := List.map_congr_left ih
      rw [unsigned, toJson, toJson, toJsonAll_eq_map, unsignedAll_eq_map, List.map_map, hitems,
        toJsonAll_eq_map]

lemma unsigned_int {m : Int64} {n : UInt64} (h : m.toInt = n.toNat) :
    (int m).unsigned = uint n := by
  have hpos : 0 ≤ m.toInt := by omega
  have hnat := toNat_toUInt64 hpos
  rw [unsigned, if_pos hpos, uint.injEq, ← UInt64.toNat_inj]
  omega

lemma map_unsigned_of_map_toJson {vs ws : List Value} (h : vs.map toJson = ws.map toJson)
    (hitems : ∀ v ∈ vs, ∀ w ∈ ws, v.toJson = w.toJson → v.unsigned = w.unsigned) :
    vs.map unsigned = ws.map unsigned := by
  induction vs generalizing ws with
  | nil => rw [List.map_eq_nil_iff.mp h.symm]
  | cons v vs ih =>
      cases ws with
      | nil => exact absurd h (List.cons_ne_nil _ _)
      | cons w ws =>
          obtain ⟨hfirst, hothers⟩ := List.cons.inj h
          rw [List.map_cons, List.map_cons,
            hitems v List.mem_cons_self w List.mem_cons_self hfirst,
            ih hothers fun v hv w hw =>
              hitems v (List.mem_cons_of_mem _ hv) w (List.mem_cons_of_mem _ hw)]

lemma unsigned_eq_of_toJson_eq {v w : Value} (hv : v.FloatFree) (hw : w.FloatFree)
    (h : v.toJson = w.toJson) : v.unsigned = w.unsigned := by
  induction v using induction_parts sizeOf_lt_of_mem_parts generalizing w with
  | step v ih =>
  -- only the two kinds of numbers share a kind of tree
  cases w with
  | float x => exact absurd (.here _) (hw x)
  | string t =>
      cases v with
      | float x => exact absurd (.here _) (hv x)
      | string s => rw [Json.string.inj h]
      | _ => exact absurd h nofun
  | boolean c =>
      cases v with
      | float x => exact absurd (.here _) (hv x)
      | boolean b => rw [Json.boolean.inj h]
      | _ => exact absurd h nofun
  | int n =>
      cases v with
      | float x => exact absurd (.here _) (hv x)
      | int m => rw [Int64.toInt_inj.mp (Json.integer.inj h)]
      | uint m => exact (unsigned_int (Json.integer.inj h).symm).symm
      | _ => exact absurd h nofun
  | uint n =>
      cases v with
      | float x => exact absurd (.here _) (hv x)
      | int m => exact unsigned_int (Json.integer.inj h)
      | uint m => rw [UInt64.toNat_inj.mp (Int.ofNat.inj (Json.integer.inj h))]
      | _ => exact absurd h nofun
  | sequence others =>
      cases v with
      | float x => exact absurd (.here _) (hv x)
      | sequence items =>
          have hitems := Json.array.inj h
          rw [toJsonAll_eq_map, toJsonAll_eq_map] at hitems
          rw [unsigned, unsigned, unsignedAll_eq_map, unsignedAll_eq_map,
            map_unsigned_of_map_toJson hitems]
          exact fun v hmem w hmem' => ih v hmem (hv.part hmem) (hw.part hmem')
      | _ => exact absurd h nofun

/-- **A tree tells everything but signedness**, if there is no floating-point number in it. -/
theorem toJson_eq_iff {v w : Value} (hv : v.FloatFree) (hw : w.FloatFree) :
    v.toJson = w.toJson ↔ v.unsigned = w.unsigned := by
  refine ⟨unsigned_eq_of_toJson_eq hv hw, fun h => ?_⟩
  rw [← toJson_unsigned v, h, toJson_unsigned]

end RecordQuery.Value
