import Mathlib.Data.List.Forall2
import RecordQuery.Proofs.Json.Reader

/-!
# Texts that diverge

Two texts diverge if they have different characters at some place, so that neither goes on with
what the other one has (`Text.Diverge`).  This is more than being different, as `1` and `12` are,
and it is what survives composition: **diverging parts make diverging texts**, whatever is written
before both of them and behind either.

A way to write things *separates* two of them if they are one thing or their texts diverge
(`Text.Separates`).  Two lists that are separated item by item are separated by their texts with
commas between the items (`Text.Separates.intercalate`), and nothing written around them undoes it
(`Text.Separates.enclosed`).
-/

namespace RecordQuery.Text

/-- **The texts diverge**: behind what they have in common they go on differently. -/
inductive Diverge : List Char → List Char → Prop
  /-- at the first character -/
  | here {c d : Char} (h : c ≠ d) (s t : List Char) : Diverge (c :: s) (d :: t)
  /-- behind a common character -/
  | behind (c : Char) {s t : List Char} (h : Diverge s t) : Diverge (c :: s) (c :: t)

namespace Diverge

variable {s t : List Char}

lemma ne (h : Diverge s t) : s ≠ t := by
  induction h with
  | here hne => simp [hne]
  | behind c _ ih => simp [ih]

lemma append_left (a : List Char) (h : Diverge s t) : Diverge (a ++ s) (a ++ t) := by
  induction a with
  | nil => exact h
  | cons c a ih => exact .behind c ih

/-- What is written behind them changes nothing, even if it is different. -/
lemma append_right (h : Diverge s t) (a b : List Char) : Diverge (s ++ a) (t ++ b) := by
  induction h with
  | here hne => exact .here hne _ _
  | behind c _ ih => exact .behind c ih

lemma of_cons {c : Char} (h : Diverge (c :: s) (c :: t)) : Diverge s t := by
  cases h with
  | here hne => exact absurd rfl hne
  | behind _ h => exact h

end Diverge

variable {α : Type} {text : α → String} {x y : α} {xs ys : List α}

/-- **The texts separate two things**: they are one thing, or their texts diverge. -/
def Separates (text : α → String) (x y : α) : Prop :=
  x = y ∨ Diverge (text x).toList (text y).toList

namespace Separates

lemma text_eq_iff (h : Separates text x y) : text x = text y ↔ x = y := by
  refine ⟨fun htext => ?_, congrArg text⟩
  rcases h with h | h
  · exact h
  · exact absurd (congrArg String.toList htext) h.ne

lemma further (h : List.Forall₂ (Separates text) xs ys) :
    xs = ys ∨ Diverge (Json.furtherTexts (xs.map text)) (Json.furtherTexts (ys.map text)) := by
  induction h with
  | nil => exact .inl rfl
  | cons hxy _ ih =>
      simp only [List.map_cons, Json.furtherTexts_cons, List.cons_append]
      -- the first items that are not the same decide, and those behind them do not matter
      rcases hxy with rfl | hxy
      · rcases ih with rfl | ih
        · exact .inl rfl
        · exact .inr (.behind _ (ih.append_left _))
      · exact .inr (.behind _ (hxy.append_right _ _))

/-- **Lists that are separated item by item** are separated by their texts with commas. -/
lemma intercalate (h : List.Forall₂ (Separates text) xs ys) :
    Separates (fun xs => ",".intercalate (xs.map text)) xs ys := by
  have hfurther := further h
  cases h with
  | nil => exact .inl rfl
  | cons _ _ =>
      refine hfurther.imp_right fun h => ?_
      simp only [List.map_cons, Json.furtherTexts_cons] at h
      simp only [List.map_cons, Json.toList_intercalate_comma]
      exact h.of_cons

lemma enclosed (h : Separates text x y) (opening closing : String) :
    Separates (fun x => opening ++ text x ++ closing) x y := by
  refine h.imp_right fun h => ?_
  simp only [String.toList_append]
  exact (h.append_left _).append_right _ _

variable {κ : Type} (name : κ → String) {p q : κ × α} {ps qs : List (κ × α)}

lemma member (hname : p.1 = q.1) (h : Separates text p.2 q.2) :
    Separates (fun p => Json.member (name p.1) (text p.2)) p q := by
  rcases h with h | h
  · exact .inl (Prod.ext hname h)
  · right
    simp only [Json.member, String.toList_append, hname]
    exact h.append_left _

/-- **Objects with the same names are separated** if their members are, one by one. -/
lemma brace (h : List.Forall₂ (fun p q => p.1 = q.1 ∧ Separates text p.2 q.2) ps qs) :
    Separates (fun ps => Json.brace (ps.map fun p => Json.member (name p.1) (text p.2))) ps qs := by
  have hmembers := h.imp fun p q hpq => member name hpq.1 hpq.2
  exact (intercalate hmembers).enclosed "\x7b" "\x7d"

end Separates

end RecordQuery.Text
