import Mathlib.Tactic.Common
import SupplicantWatch.Text.Utf8

/-!
# The order of texts and of their bytes

Texts are ordered by their code points. Main statement: `encode_lt_encode_iff`, this is the order of
their UTF-8 bytes.
-/

namespace SupplicantWatch.Utf8

/-- The bytes of a smaller character come first, whatever follows either of them. -/
lemma encodeChar_append_lt {c d : Char} (h : c < d) (s t : List UInt8) :
    String.utf8EncodeChar c ++ s < String.utf8EncodeChar d ++ t := by
  have hc : c.val.toNat < 0xd800 ∨ 0xdfff < c.val.toNat ∧ c.val.toNat < 0x110000 := c.valid
  have hd : d.val.toNat < 0xd800 ∨ 0xdfff < d.val.toNat ∧ d.val.toNat < 0x110000 := d.valid
  have hlt : c.val.toNat < d.val.toNat := h
  unfold String.utf8EncodeChar
  generalize c.val.toNat = v at hc hlt
  generalize d.val.toNat = w at hd hlt
  dsimp only
  have h₁ : v / 64 < w / 64 ∨ v / 64 = w / 64 ∧ v % 64 < w % 64 := by omega
  have h₂ : v / 4096 < w / 4096 ∨ v / 4096 = w / 4096 ∧ v / 64 % 64 ≤ w / 64 % 64 := by omega
  have h₃ : v / 262144 < w / 262144 ∨ v / 262144 = w / 262144 ∧ v / 4096 % 64 ≤ w / 4096 % 64 := by
    omega
  have hv : v / 262144 < 8 := by omega
  have hw : w / 262144 < 8 := by omega
  -- Two lead bytes of different lengths decide; of one length the first byte that differs does.
  split_ifs
  all_goals
    simp only [List.cons_append, List.nil_append, List.cons_lt_cons_iff]
    simp (disch := omega) only [UInt8.lt_iff_toNat_lt, ← UInt8.toNat_inj, toNat_byte]
    omega

private lemma encode_lt_encode {s t : List Char} (h : s < t) : encode s < encode t := by
  induction s generalizing t with
  | nil =>
    cases t with
    | nil => cases h
    | cons d t =>
      obtain ⟨b, bs, hb⟩ := List.exists_cons_of_ne_nil (String.utf8EncodeChar_ne_nil (c := d))
      rw [encode, encode, List.flatMap_cons, hb]
      exact List.nil_lt_cons b _
  | cons c s ih =>
    cases t with
    | nil => cases h
    | cons d t =>
      rw [encode, encode, List.flatMap_cons, List.flatMap_cons]
      rcases List.cons_lt_cons_iff.1 h with hcd | ⟨rfl, hst⟩
      · exact encodeChar_append_lt hcd _ _
      · exact List.append_left_lt (ih hst)

/-- One text comes before another exactly if its bytes do. -/
theorem encode_lt_encode_iff {s t : List Char} : encode s < encode t ↔ s < t := by
  refine ⟨fun h => ?_, encode_lt_encode⟩
  rcases Std.lt_trichotomy s t with hst | rfl | hts
  · exact hst
  · exact absurd h (List.lt_irrefl _)
  · exact absurd h (List.lt_asymm (encode_lt_encode hts))

end SupplicantWatch.Utf8
