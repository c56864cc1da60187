import RecordQuery.Proofs.Text.Divergence
import RecordQuery.Proofs.Value.Tree

/-!
# Values that agree

Values agree if they are equal, floating-point numbers compared as numbers.  That is not identity,
in two respects: a NaN does not agree with itself, and **the two zeros agree with each other**.

* `Value.plainZeros` — the value with its zeros made positive, at any depth.
* **`Value.agrees_iff`** — two values agree iff they are the same up to the signs of zeros and there
  is no NaN in them.
* `Value.separates_of_agrees` — the JSON text tells the two zeros apart, so values that agree either
  are the same or have diverging texts.
-/

namespace RecordQuery

/-! ## Doubles -/

namespace Binary64

variable {x y : Binary64}

/-- The positive zero for either zero. -/
def plainZero (x : Binary64) : Binary64 := if x.isZero then ⟨0⟩ else x

/-- The zero with a sign. -/
def isNegativeZero (x : Binary64) : Bool := x.isZero && x.isNegative

lemma bits_injective : Function.Injective bits := by
  rintro ⟨_⟩ ⟨_⟩ rfl
  rfl

lemma isZero_iff : x.isZero = true ↔ x.exponentField = 0 ∧ x.fractionField = 0 :=
  decide_eq_true_iff

lemma isNaN_of_isZero (h : x.isZero = true) : x.isNaN = false := by
  simp [isNaN, isZero_iff.mp h]

lemma isFinite_of_isZero (h : x.isZero = true) : x.isFinite = true := by
  simp [isFinite, isZero_iff.mp h]

/-- There are only two zeros. -/
lemma eq_of_isZero (hx : x.isZero = true) (hy : y.isZero = true)
    (hsign : x.isNegative = y.isNegative) : x = y := by
  simp only [isZero_iff, exponentField, fractionField] at hx hy
  simp only [isNegative, decide_eq_decide] at hsign
  have hxlt := x.bits.toNat_lt
  have hylt := y.bits.toNat_lt
  -- what is left of the bits is the sign
  have hbits : x.bits.toNat = y.bits.toNat := by omega
  exact bits_injective (UInt64.toNat_inj.mp hbits)

lemma plainZero_of_not_isNegativeZero (h : x.isNegativeZero = false) : x.plainZero = x := by
  rw [plainZero]
  split
  · next hzero =>
    rw [isNegativeZero, hzero, Bool.true_and] at h
    exact eq_of_isZero (by decide) hzero (by rw [h]; decide)
  · rfl

lemma plainZero_eq_iff :
    x.plainZero = y.plainZero ↔ x = y ∨ x.isZero = true ∧ y.isZero = true := by
  have hplain : (⟨0⟩ : Binary64).isZero = true := by decide
  constructor
  · intro h
    rw [plainZero, plainZero] at h
    split at h <;> split at h
    · next hx hy => exact .inr ⟨hx, hy⟩
    -- only a zero is changed, and only into a zero
    · next hx hy => exact absurd (h ▸ hplain) hy
    · next hx hy => exact absurd (h ▸ hplain) hx
    · exact .inl h
  · rintro (rfl | ⟨hx, hy⟩)
    · rfl
    · simp [plainZero, hx, hy]

lemma agrees_iff_eq_or_isZero : x.agrees y = true ↔
    x.isNaN = false ∧ (x = y ∨ x.isZero = true ∧ y.isZero = true) := by
  simp only [agrees, Bool.and_eq_true, Bool.or_eq_true, Bool.not_eq_true', beq_iff_eq,
    bits_injective.eq_iff]
  constructor
  · rintro ⟨⟨hx, _⟩, h⟩
    exact ⟨hx, h⟩
  · rintro ⟨hx, rfl | ⟨hzero, hzero'⟩⟩
    · exact ⟨⟨hx, hx⟩, .inl rfl⟩
    · exact ⟨⟨hx, isNaN_of_isZero hzero'⟩, .inr ⟨hzero, hzero'⟩⟩

/-- **Doubles agree** iff they are the same up to the sign of a zero, and no NaN. -/
theorem agrees_iff : x.agrees y = true ↔ x.isNaN = false ∧ x.plainZero = y.plainZero := by
  rw [agrees_iff_eq_or_isZero, plainZero_eq_iff]

lemma renderFloat_of_isZero (h : x.isZero = true) :
    Json.renderFloat x = (if x.isNegative then "-" else "") ++ "0.0" := by
  simp [Json.renderFloat, Layout.render, isFinite_of_isZero h, h]

/-- **The texts of the two zeros diverge.**  Other doubles that agree are the same. -/
lemma separates_of_agrees (h : x.agrees y = true) : Text.Separates Json.renderFloat x y := by
  obtain ⟨_, rfl | ⟨hx, hy⟩⟩ := agrees_iff_eq_or_isZero.mp h
  · exact .inl rfl
  · by_cases hsign : x.isNegative = y.isNegative
    · exact .inl (eq_of_isZero hx hy hsign)
    · right
      rw [renderFloat_of_isZero hx, renderFloat_of_isZero hy]
      -- one text begins with the sign, and the other with a digit
      cases hxs : x.isNegative <;> cases hys : y.isNegative
      · exact absurd (hxs.trans hys.symm) hsign
      · exact .here (by decide) _ _
      · exact .here (by decide) _ _
      · exact absurd (hxs.trans hys.symm) hsign

end Binary64

/-! ## Relations that compare images -/

/-- If being related means to have the same image, apart from a demand on the first one, then lists
are related item by item iff they have the same images and meet the demand. -/
lemma forall₂_iff_map_eq {α β : Type} {related : α → α → Prop} {demand : α → Prop} {f : α → β}
    {xs ys : List α} (h : ∀ x ∈ xs, ∀ y, related x y ↔ demand x ∧ f x = f y) :
    List.Forall₂ related xs ys ↔ (∀ x ∈ xs, demand x) ∧ xs.map f = ys.map f := by
  induction xs generalizing ys with
  | nil => simp [eq_comm]
  | cons x xs ih =>
      cases ys with
      | nil => simp
      | cons y ys =>
          have htail := @ih ys fun x' hx' => h x' (List.mem_cons_of_mem _ hx')
          rw [List.forall₂_cons, h x List.mem_cons_self, htail]
          simp only [List.forall_mem_cons, List.map_cons, List.cons.injEq]
          exact and_and_and_comm

/-! ## Values -/

namespace Value

/-- **Every floating-point number in the value meets the demand.** -/
def EveryFloat (demand : Binary64 → Prop) (v : Value) : Prop :=
  ∀ x, v.Contains (.float x) → demand x

lemma everyFloat_iff {demand : Binary64 → Prop} {v : Value} :
    v.EveryFloat demand ↔
      (∀ x, v = .float x → demand x) ∧ ∀ w ∈ v.parts, w.EveryFloat demand := by
  simp only [EveryFloat, Contains, within_iff (a := v)]
  constructor
  · intro h
    exact ⟨fun x hx => h x (.inl hx), fun w hw x hx => h x (.inr ⟨w, hw, hx⟩)⟩
  · rintro ⟨hself, hparts⟩ x (hx | ⟨w, hw, hx⟩)
    · exact hself x hx
    · exact hparts w hw x hx

@[simp] lemma everyFloat_float {demand : Binary64 → Prop} {x : Binary64} :
    (float x).EveryFloat demand ↔ demand x := by
  simp [everyFloat_iff (v := float x), parts]

@[simp] lemma everyFloat_sequence {demand : Binary64 → Prop} {items : List Value} :
    (sequence items).EveryFloat demand ↔ ∀ w ∈ items, w.EveryFloat demand := by
  simp [everyFloat_iff (v := sequence items), parts]

mutual

/-- **The value with its zeros made positive.** -/
def plainZeros : Value → Value
  | float x => float x.plainZero
  | sequence items => sequence (plainZerosAll items)
  | v => v

def plainZerosAll : List Value → List Value
  | [] => []
  | v :: vs => v.plainZeros :: plainZerosAll vs

end

lemma plainZerosAll_eq_map (items : List Value) : plainZerosAll items = items.map plainZeros := by
  induction items with
  | nil => rfl
  | cons v vs ih => simp [plainZerosAll, ih]

lemma plainZeros_eq_self {v : Value} (h : v.EveryFloat fun x => x.isNegativeZero = false) :
    v.plainZeros = v := by
  induction v using induction_parts sizeOf_lt_of_mem_parts with
  | step v ih =>
  cases v with
  | string _ | int _ | uint _ | boolean _ => rfl
  | float x =>
      rw [plainZeros, Binary64.plainZero_of_not_isNegativeZero (everyFloat_float.mp h)]
  | sequence items =>
      have hitems : items.map plainZeros = items.map id :=
        List.map_congr_left fun w hw => ih w hw (everyFloat_sequence.mp h w hw)
      rw [plainZeros, plainZerosAll_eq_map, hitems, List.map_id]

lemma allAgree_iff {vs ws : List Value} :
    allAgree vs ws = true ↔ List.Forall₂ (fun v w => v.agrees w = true) vs ws := by
  induction vs generalizing ws with
  | nil => cases ws <;> simp [allAgree]
  | cons v vs ih => cases ws <;> simp [allAgree, ih]

/-- **Values agree** iff they are the same up to the signs of zeros and there is no NaN in them. -/
theorem agrees_iff {v w : Value} : v.agrees w = true ↔
    (v.EveryFloat fun x => x.isNaN = false) ∧ v.plainZeros = w.plainZeros := by
  induction v using induction_parts sizeOf_lt_of_mem_parts generalizing w with
  | step v ih =>
  cases v with
  | string _ | int _ | uint _ | boolean _ =>
      rw [everyFloat_iff]
      cases w <;> simp [agrees, plainZeros, parts]
  | float x =>
      cases w <;> simp [agrees, plainZeros, Binary64.agrees_iff]
  | sequence items =>
      cases w with
      | sequence others =>
          have hitems : List.Forall₂ (fun v w => v.agrees w = true) items others ↔ _ :=
            forall₂_iff_map_eq fun v hv w => @ih v hv w
          simp [agrees, plainZeros, plainZerosAll_eq_map, allAgree_iff, hitems]
      | _ => simp [agrees, plainZeros]

/-- **Values that agree are the same, or their texts diverge.** -/
theorem separates_of_agrees {v w : Value} (h : v.agrees w = true) : Text.Separates render v w := by
  induction v using induction_parts sizeOf_lt_of_mem_parts generalizing w with
  | step v ih =>
  cases v with
  | string _ | int _ | uint _ | boolean _ =>
      left
      cases w <;> simp_all [agrees]
  | float x =>
      cases w with
      | float y =>
          refine (Binary64.separates_of_agrees h).imp_left ?_
          rintro rfl
          rfl
      | _ => exact absurd h Bool.false_ne_true
  | sequence items =>
      cases w with
      | sequence others =>
          have hagree := allAgree_iff.mp h
          have hitems : List.Forall₂ (Text.Separates render) items others :=
            ((List.forall₂_and_left _ _).mpr ⟨@ih, hagree⟩).imp fun v w hvw => hvw.1 hvw.2
          have htexts := (Text.Separates.intercalate hitems).enclosed "[" "]"
          simp only [Text.Separates, render, renderAll_eq_map, sequence.injEq]
          exact htexts
      | _ => exact absurd h Bool.false_ne_true

end Value

end RecordQuery
