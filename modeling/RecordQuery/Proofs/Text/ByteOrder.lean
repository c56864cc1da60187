import Mathlib.Tactic.Lemma
import Mathlib.Tactic.SplitIfs

/-!
# The order of texts is the order of their bytes

Keys are compared code by code, while a store that keeps them in UTF-8 compares bytes.  UTF-8 is
made so that the two orders are one, and this file proves it in the direction that is needed: what
precedes another text by its codes precedes it by its bytes (`Text.bytes_lt_of_compare`).

The crux is one character (`Text.encode_append_lt`).  A character with a smaller code differs from
one with a greater code within its own bytes, so the bytes behind it play no part.
-/

namespace RecordQuery.Text

/-- The bytes of a text in UTF-8. -/
def bytes (s : String) : List UInt8 := s.toUTF8.data.toList

lemma bytes_eq (s : String) : bytes s = s.toList.flatMap String.utf8EncodeChar :=
  calc bytes s = bytes (.ofList s.toList) := by rw [String.ofList_toList]
    _ = _ := List.toList_data_toByteArray

/-- **One character.**  Its bytes decide, whatever stands behind them. -/
lemma encode_append_lt {c d : Char} (h : c < d) (s t : List UInt8) :
    String.utf8EncodeChar c ++ s < String.utf8EncodeChar d ++ t := by
  have hlt : c.val.toNat < d.val.toNat := UInt32.lt_iff_toNat_lt.mp h
  have hmax : d.val.toNat < 0x110000 := by
    rcases d.valid with hv | hv
    · exact Nat.lt_trans hv (by decide)
    · exact hv.2
  simp only [String.utf8EncodeChar]
  generalize c.val.toNat = v at hlt ⊢
  generalize d.val.toNat = w at hlt hmax ⊢
  -- every byte but the first is a digit of the code to the base 64
  have hv₂ : v / 4096 = v / 64 / 64 := by omega
  have hv₃ : v / 262144 = v / 64 / 64 / 64 := by omega
  have hw₂ : w / 4096 = w / 64 / 64 := by omega
  have hw₃ : w / 262144 = w / 64 / 64 / 64 := by omega
  rw [hv₂, hv₃, hw₂, hw₃]
  -- of two lengths the shorter has the smaller first byte; with one length the digits decide
  split_ifs <;>
    simp (disch := omega) only [List.cons_append, List.nil_append, List.cons_lt_cons_iff,
      UInt8.lt_iff_toNat_lt, ← UInt8.toNat_inj, UInt8.toNat_ofNat', Nat.mod_eq_of_lt] <;>
    omega

lemma flatMap_encode_lt {cs ds : List Char} (h : cs < ds) :
    cs.flatMap String.utf8EncodeChar < ds.flatMap String.utf8EncodeChar := by
  induction cs generalizing ds with
  | nil =>
      cases ds with
      | nil => exact absurd h (List.lt_irrefl [])
      | cons d ds =>
          rw [List.flatMap_cons]
          cases hd : String.utf8EncodeChar d with
          | nil => exact absurd hd String.utf8EncodeChar_ne_nil
          | cons b bs => exact List.nil_lt_cons b _
  | cons c cs ih =>
      cases ds with
      | nil => exact absurd h (List.not_lt_nil _)
      | cons d ds =>
          rw [List.flatMap_cons, List.flatMap_cons]
          rcases List.cons_lt_cons_iff.mp h with hcd | ⟨rfl, htail⟩
          · exact encode_append_lt hcd _ _
          · exact List.append_left_lt (ih htail)

/-- **What precedes by codes precedes by bytes.** -/
theorem bytes_lt_of_compare {s t : String} (h : compare s t = .lt) : bytes s < bytes t := by
  change compareOfLessAndEq s t = .lt at h
  have hlt : s < t := compareOfLessAndEq_eq_lt.mp h
  rw [bytes_eq, bytes_eq]
  exact flatMap_encode_lt (String.lt_iff.mp hlt)

end RecordQuery.Text
