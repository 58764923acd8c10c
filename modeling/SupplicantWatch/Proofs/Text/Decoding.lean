import Mathlib.Tactic.Common
import SupplicantWatch.Text.Utf8

/-!
# What bytes decode to

No piece reaches over a byte that goes on with none, so what is in front of such a byte is decoded
apart from what begins with it; and bytes without a malformed piece are the bytes of a text. Main
statements: `pieces_append_cons`, `decode?_eq_some_iff`.
-/

namespace SupplicantWatch.Utf8

variable {a b : UInt8}

/-- A lead byte announces no, one, two or three bytes to follow. -/
lemma lead?_cases {lead : Lead} (h : lead? b = some lead) :
    b.toNat < 0x80 ∧ lead.bits = b.toNat ∧ lead.following = 0
      ∨ (0xc2 ≤ b.toNat ∧ b.toNat < 0xe0) ∧ lead.bits = b.toNat % 32 ∧ lead.following = 1
        ∧ 0x80 ≤ lead.lo ∧ lead.hi ≤ 0xbf
      ∨ (0xe0 ≤ b.toNat ∧ b.toNat < 0xf0) ∧ lead.bits = b.toNat % 16 ∧ lead.following = 2
        ∧ 0x80 ≤ lead.lo ∧ lead.hi ≤ 0xbf
        ∧ (b.toNat = 0xe0 → 0xa0 ≤ lead.lo) ∧ (b.toNat = 0xed → lead.hi ≤ 0x9f)
      ∨ (0xf0 ≤ b.toNat ∧ b.toNat ≤ 0xf4) ∧ lead.bits = b.toNat % 8 ∧ lead.following = 3
        ∧ 0x80 ≤ lead.lo ∧ lead.hi ≤ 0xbf
        ∧ (b.toNat = 0xf0 → 0x90 ≤ lead.lo) ∧ (b.toNat = 0xf4 → lead.hi ≤ 0x8f) := by
  simp only [lead?] at h
  split_ifs at h
  all_goals
    cases h
    dsimp only
    omega

/-! ### In front of a byte that goes on with no character -/

/-- Continuation bytes end before a byte that is none at the latest. -/
lemma continuation_append_cons (ha : a.toNat < 0x80 ∨ 0xbf < a.toNat) {k lo hi : Nat}
    (hbounds : k = 0 ∨ 0x80 ≤ lo ∧ hi ≤ 0xbf) (value : Nat) (s t : List UInt8) :
    continuation k lo hi value (s ++ a :: t)
      = ((continuation k lo hi value s).1, (continuation k lo hi value s).2 ++ a :: t) := by
  induction k generalizing lo hi value s with
  | zero => rfl
  | succ k ih =>
    have hbounds' : 0x80 ≤ lo ∧ hi ≤ 0xbf := hbounds.resolve_left (Nat.succ_ne_zero k)
    cases s with
    | nil =>
      have hnot : ¬(lo ≤ a.toNat ∧ a.toNat ≤ hi) := by
        omega
      simp [continuation, hnot]
    | cons b s =>
      rw [List.cons_append, continuation, continuation]
      split_ifs
      · exact ih (.inr ⟨Nat.le_refl _, Nat.le_refl _⟩) _ s
      · rfl

lemma bounds_of_lead? {lead : Lead} (h : lead? b = some lead) :
    lead.following = 0 ∨ 0x80 ≤ lead.lo ∧ lead.hi ≤ 0xbf := by
  have hcases := lead?_cases h
  omega

lemma first_append_cons (ha : a.toNat < 0x80 ∨ 0xbf < a.toNat) (b : UInt8) (s t : List UInt8) :
    first b (s ++ a :: t) = ((first b s).1, (first b s).2 ++ a :: t) := by
  rw [first, first]
  cases h : lead? b with
  | none => rfl
  | some lead =>
    dsimp only
    rw [continuation_append_cons ha (bounds_of_lead? h)]

/-- The pieces in front of a byte that goes on with none and those from it on are the pieces of the
whole. -/
theorem pieces_append_cons (ha : a.toNat < 0x80 ∨ 0xbf < a.toNat) (s t : List UInt8) :
    pieces (s ++ a :: t) = pieces s ++ pieces (a :: t) := by
  induction hn : s.length using Nat.strongRecOn generalizing s with
  | ind n ih =>
    cases s with
    | nil =>
      rw [pieces.eq_1]
      rfl
    | cons b s =>
      have hlt : (first b s).2.length < n := by
        rw [← hn]
        exact Nat.lt_succ_of_le (length_first_le b s)
      rw [List.cons_append, pieces, pieces.eq_2, first_append_cons ha, List.cons_append]
      rw [ih _ hlt _ rfl]

lemma pieces_of_ascii (ha : a.toNat < 0x80) (t : List UInt8) :
    pieces (a :: t) = some (Char.ofNat a.toNat) :: pieces t := by
  have hlead : lead? a = some ⟨a.toNat, 0, 0, 0⟩ := by
    rw [lead?, if_pos ha]
  rw [pieces, first, hlead]
  rfl

/-- What is in front of an ASCII byte and what is behind it are decoded apart. -/
theorem decodeLossy_append_cons (ha : a.toNat < 0x80) (s t : List UInt8) :
    decodeLossy (s ++ a :: t) = decodeLossy s ++ Char.ofNat a.toNat :: decodeLossy t := by
  rw [decodeLossy, pieces_append_cons (.inl ha), pieces_of_ascii ha, List.map_append]
  rfl

/-! ### Well-formed bytes -/

/-- Bytes that continue a character are in the range and lie in front of what is left. -/
lemma continuation_succ_eq_some {k lo hi value v : Nat} {bs rest : List UInt8}
    (h : continuation (k + 1) lo hi value bs = (some v, rest)) :
    ∃ b bs', bs = b :: bs' ∧ (lo ≤ b.toNat ∧ b.toNat ≤ hi)
      ∧ continuation k 0x80 0xbf (64 * value + b.toNat % 64) bs' = (some v, rest) := by
  cases bs with
  | nil => cases h
  | cons b bs =>
    rw [continuation] at h
    split_ifs at h with hb
    · exact ⟨b, bs, rfl, hb, h⟩
    · cases h

variable {b₁ b₂ b₃ : UInt8} {v : Nat}

lemma toNat_val_ofNat (h : v.isValidChar) : (Char.ofNat v).val.toNat = v := by
  rw [Char.ofNat, dif_pos h]
  rfl

lemma ofNat_eq_iff {n : Nat} (h : n < 256) : UInt8.ofNat n = b ↔ n = b.toNat := by
  rw [← UInt8.toNat_inj, UInt8.toNat_ofNat', Nat.mod_eq_of_lt h]

/-! In the next lemmas a character is put together from the bytes that it was read from. The bounds
of the second byte keep out overlong forms, surrogates and what lies beyond U+10FFFF, so it is
written with the same bytes again. -/

lemma encodeChar_one (h : b.toNat < 0x80) : String.utf8EncodeChar (Char.ofNat b.toNat) = [b] := by
  have hv : b.toNat.isValidChar := by
    rw [Nat.isValidChar]
    omega
  rw [String.utf8EncodeChar, toNat_val_ofNat hv, if_pos (by omega), UInt8.ofNat_toNat]

lemma encodeChar_two (h₀ : 0xc2 ≤ b.toNat ∧ b.toNat < 0xe0)
    (h₁ : 0x80 ≤ b₁.toNat ∧ b₁.toNat ≤ 0xbf) :
    String.utf8EncodeChar (Char.ofNat (64 * (b.toNat % 32) + b₁.toNat % 64)) = [b, b₁] := by
  have hv : (64 * (b.toNat % 32) + b₁.toNat % 64).isValidChar := by
    rw [Nat.isValidChar]
    omega
  rw [String.utf8EncodeChar, toNat_val_ofNat hv, if_neg (by omega), if_pos (by omega)]
  simp only [List.cons.injEq, and_true]
  rw [ofNat_eq_iff (by omega), ofNat_eq_iff (by omega)]
  omega

lemma encodeChar_three (h₀ : 0xe0 ≤ b.toNat ∧ b.toNat < 0xf0)
    (h₁ : 0x80 ≤ b₁.toNat ∧ b₁.toNat ≤ 0xbf) (h₂ : 0x80 ≤ b₂.toNat ∧ b₂.toNat ≤ 0xbf)
    (hlo : b.toNat = 0xe0 → 0xa0 ≤ b₁.toNat) (hhi : b.toNat = 0xed → b₁.toNat ≤ 0x9f) :
    String.utf8EncodeChar (Char.ofNat
      (64 * (64 * (b.toNat % 16) + b₁.toNat % 64) + b₂.toNat % 64)) = [b, b₁, b₂] := by
  have hv : (64 * (64 * (b.toNat % 16) + b₁.toNat % 64) + b₂.toNat % 64).isValidChar := by
    rw [Nat.isValidChar]
    omega
  rw [String.utf8EncodeChar, toNat_val_ofNat hv, if_neg (by omega), if_neg (by omega),
    if_pos (by omega)]
  simp only [List.cons.injEq, and_true]
  rw [ofNat_eq_iff (by omega), ofNat_eq_iff (by omega), ofNat_eq_iff (by omega)]
  omega

lemma encodeChar_four (h₀ : 0xf0 ≤ b.toNat ∧ b.toNat ≤ 0xf4)
    (h₁ : 0x80 ≤ b₁.toNat ∧ b₁.toNat ≤ 0xbf) (h₂ : 0x80 ≤ b₂.toNat ∧ b₂.toNat ≤ 0xbf)
    (h₃ : 0x80 ≤ b₃.toNat ∧ b₃.toNat ≤ 0xbf)
    (hlo : b.toNat = 0xf0 → 0x90 ≤ b₁.toNat) (hhi : b.toNat = 0xf4 → b₁.toNat ≤ 0x8f) :
    String.utf8EncodeChar (Char.ofNat
      (64 * (64 * (64 * (b.toNat % 8) + b₁.toNat % 64) + b₂.toNat % 64) + b₃.toNat % 64))
        = [b, b₁, b₂, b₃] := by
  have hv : (64 * (64 * (64 * (b.toNat % 8) + b₁.toNat % 64) + b₂.toNat % 64)
      + b₃.toNat % 64).isValidChar := by
    rw [Nat.isValidChar]
    omega
  rw [String.utf8EncodeChar, toNat_val_ofNat hv, if_neg (by omega), if_neg (by omega),
    if_neg (by omega)]
  simp only [List.cons.injEq, and_true]
  rw [ofNat_eq_iff (by omega), ofNat_eq_iff (by omega), ofNat_eq_iff (by omega),
    ofNat_eq_iff (by omega)]
  omega

/-- A character in front of some bytes is written with the bytes that were read. -/
lemma eq_append_of_first {bs rest : List UInt8} {c : Char} (h : first b bs = (some c, rest)) :
    b :: bs = String.utf8EncodeChar c ++ rest := by
  rw [first] at h
  cases hlead : lead? b with
  | none =>
    rw [hlead] at h
    cases h
  | some lead =>
    rw [hlead] at h
    dsimp only at h
    obtain ⟨v, hvalue, rfl⟩ : ∃ v, continuation lead.following lead.lo lead.hi lead.bits bs
        = (some v, rest) ∧ Char.ofNat v = c := by
      rw [Prod.mk.injEq, Option.map_eq_some_iff] at h
      obtain ⟨⟨v, hv, hc⟩, hrest⟩ := h
      exact ⟨v, Prod.ext hv hrest, hc⟩
    rcases lead?_cases hlead with ⟨hb, hbits, hk⟩ | ⟨hb, hbits, hk, hlo, hhi⟩
      | ⟨hb, hbits, hk, hlo, hhi, hlo', hhi'⟩ | ⟨hb, hbits, hk, hlo, hhi, hlo', hhi'⟩
    all_goals rw [hk, hbits] at hvalue
    · cases hvalue
      rw [encodeChar_one hb]
      rfl
    · obtain ⟨b₁, bs₁, rfl, h₁, hvalue⟩ := continuation_succ_eq_some hvalue
      cases hvalue
      rw [encodeChar_two hb (by omega)]
      rfl
    · obtain ⟨b₁, bs₁, rfl, h₁, hvalue⟩ := continuation_succ_eq_some hvalue
      obtain ⟨b₂, bs₂, rfl, h₂, hvalue⟩ := continuation_succ_eq_some hvalue
      cases hvalue
      rw [encodeChar_three hb (by omega) h₂ (by omega) (by omega)]
      rfl
    · obtain ⟨b₁, bs₁, rfl, h₁, hvalue⟩ := continuation_succ_eq_some hvalue
      obtain ⟨b₂, bs₂, rfl, h₂, hvalue⟩ := continuation_succ_eq_some hvalue
      obtain ⟨b₃, bs₃, rfl, h₃, hvalue⟩ := continuation_succ_eq_some hvalue
      cases hvalue
      rw [encodeChar_four hb (by omega) h₂ h₃ (by omega) (by omega)]
      rfl

/-- Bytes whose pieces are characters are the bytes of these. -/
lemma eq_encode_of_pieces {bs : List UInt8} {s : List Char} (h : pieces bs = s.map some) :
    bs = encode s := by
  induction s generalizing bs with
  | nil =>
    cases bs with
    | nil => rfl
    | cons b bs =>
      rw [pieces] at h
      cases h
  | cons c s ih =>
    cases bs with
    | nil =>
      rw [pieces] at h
      cases h
    | cons b bs =>
      rw [pieces, List.map_cons, List.cons.injEq] at h
      obtain ⟨hfirst, hrest⟩ := h
      have happend : b :: bs = String.utf8EncodeChar c ++ (first b bs).2 :=
        eq_append_of_first (Prod.ext hfirst rfl)
      rw [happend, ih hrest]
      rfl

lemma mapM_id_eq_some_iff {os : List (Option Char)} {s : List Char} :
    os.mapM id = some s ↔ os = s.map some := by
  induction os generalizing s with
  | nil => simp
  | cons o os ih =>
    cases s with
    | nil => simp [List.mapM_cons, Option.bind_eq_some_iff]
    | cons c s => simp [List.mapM_cons, Option.bind_eq_some_iff, ih]

/-- Bytes are well formed exactly if they are those of a text, and then that is what they decode
to. -/
theorem decode?_eq_some_iff {bs : List UInt8} {s : List Char} :
    decode? bs = some s ↔ bs = encode s := by
  rw [decode?, mapM_id_eq_some_iff]
  constructor
  · exact eq_encode_of_pieces
  · rintro rfl
    exact pieces_encode s

end SupplicantWatch.Utf8
