import Mathlib.Data.List.Induction
import Mathlib.Data.List.TakeWhile
import Mathlib.Tactic.Common
import SupplicantWatch.Proofs.Text.Search
import SupplicantWatch.Text.Numeral

/-!
# Written numbers

Numbers as they are commonly written, read back as numerals of bounded width, and what any run of
digits is read as. Main statements: `word?_toDigits`, `int?_toString_int` and
`getD_int?_of_isDigit`.
-/

namespace SupplicantWatch.Text

variable {bits n : Nat} {c : Char} {digits : List Char}

lemma toList_toString (n : Nat) : (toString n).toList = Nat.toDigits 10 n := by
  change (String.ofList (Nat.toDigits 10 n)).toList = _
  rw [String.toList_ofList]

lemma isDigit_of_mem_toString (h : c ∈ (toString n).toList) : c.isDigit = true := by
  rw [toList_toString] at h
  exact Nat.isDigit_of_mem_toDigits (by omega) (by omega) h

/-- No character but a digit is in a written number. -/
lemma notMem_toString (h : c.isDigit = false) : c ∉ (toString n).toList := by
  intro hmem
  rw [isDigit_of_mem_toString hmem] at h
  cases h

lemma takeWhile_isDigit_toString (n : Nat) :
    (toString n).toList.takeWhile Char.isDigit = (toString n).toList :=
  List.takeWhile_eq_self_iff.2 fun _ => isDigit_of_mem_toString

/-- A written number that fits reads back as that number. -/
theorem int?_toString (h : n < wordCount (bits - 1)) :
    int? bits (toString n).toList = some (n : Int) := by
  have hsign (sign : Char) (hs : sign.isDigit = false) :
      ∀ rest, (toString n).toList ≠ sign :: rest := by
    intro rest h
    apply notMem_toString hs
    rw [h]
    exact List.mem_cons_self
  have hdigits : digits? 10 (toString n).toList = some n := by
    rw [toList_toString, digits?_toDigits (by omega) (by omega)]
  have hfits : (some n).filter (· < wordCount (bits - 1)) = some n := by
    simp [h]
  rw [int?, word?, hdigits, hfits]
  · rfl
  · exact hsign '+' (by decide)
  · exact hsign '-' (by decide)

/-- What holds of every digit holds of the digits of a number. -/
lemma forall_mem_toDigits {base : Nat} (hlo : 2 ≤ base) {p : Char → Prop}
    (h : ∀ k < base, p (Nat.digitChar k)) (n : Nat) : ∀ c ∈ Nat.toDigits base n, p c := by
  induction n using Nat.strongRecOn with
  | ind n ih =>
    intro c hc
    rw [Nat.toDigits_eq_if hlo] at hc
    split_ifs at hc with hn
    · rw [List.mem_singleton.1 hc]
      exact h n hn
    · rcases List.mem_append.1 hc with hc | hc
      · exact ih (n / base) (Nat.div_lt_self (by omega) (by omega)) c hc
      · rw [List.mem_singleton.1 hc]
        exact h _ (Nat.mod_lt n (by omega))

/-- The digits of a number that fits read back as that number. -/
theorem word?_toDigits {base : Nat} (hlo : 2 ≤ base) (hhi : base ≤ 16) (h : n < wordCount bits) :
    word? base bits (Nat.toDigits base n) = some n := by
  have hplus : ∀ rest, Nat.toDigits base n ≠ '+' :: rest := by
    intro rest heq
    have hdigits := digits?_toDigits hlo hhi n
    have hnone : digit? base '+' = none := rfl
    simp [heq, digits?, hnone] at hdigits
  rw [word?, digits?_toDigits hlo hhi]
  · simp [h]
  · exact hplus

/-- A written whole number that fits reads back as that number. -/
theorem int?_toString_int {n : Int} (hlo : -(wordCount (bits - 1) : Int) ≤ n)
    (hhi : n < wordCount (bits - 1)) : int? bits (toString n).toList = some n := by
  cases n with
  | ofNat n => exact int?_toString (Int.ofNat_lt.1 hhi)
  | negSucc n =>
    have htext : (toString (Int.negSucc n)).toList = '-' :: Nat.toDigits 10 (n + 1) := by
      change ("-" ++ toString (n + 1)).toList = _
      rw [String.toList_append, toList_toString]
      rfl
    have hfits : n + 1 ≤ wordCount (bits - 1) := by omega
    have hfilter : (some (n + 1)).filter (· ≤ wordCount (bits - 1)) = some (n + 1) := by
      simp only [Option.filter_some, hfits, decide_true, if_true]
    rw [htext, int?, digits?_toDigits (by omega) (by omega), hfilter]
    rfl

/-- No character but a digit and the sign is in a written whole number. -/
lemma notMem_toString_int (h : c.isDigit = false) (hsign : c ≠ '-') (n : Int) :
    c ∉ (toString n).toList := by
  cases n with
  | ofNat n => exact notMem_toString h
  | negSucc n =>
    change c ∉ ("-" ++ toString (n + 1)).toList
    rw [String.toList_append, List.mem_append, not_or]
    exact ⟨by simpa using hsign, notMem_toString h⟩

/-! ### Any digits -/

/-- One or more decimal digits. -/
structure IsNumeral (s : List Char) : Prop where
  ne_nil : s ≠ []
  isDigit : ∀ c ∈ s, c.isDigit = true

/-- The number that some decimal digits write, however many they are. -/
def decimalValue (digits : List Char) : Nat :=
  digits.foldl (fun n c => 10 * n + (c.toNat - '0'.toNat)) 0

/-- The number that some decimal digits write, or another one if there are none or it has no place
in 32 bits with a sign. -/
def decimalOr (other : Int) (digits : List Char) : Int :=
  if digits ≠ [] ∧ decimalValue digits ≤ 2147483647 then decimalValue digits else other

lemma IsNumeral.some?_append {rest : List Char} (h : IsNumeral digits)
    (hrest : ∀ c ∈ rest.head?, Char.isDigit c = false) :
    some? Char.isDigit (digits ++ rest) = some (digits, rest) :=
  some?_eq_some_iff.2 ⟨rfl, h.ne_nil, h.isDigit, hrest⟩

lemma digit?_of_isDigit (h : c.isDigit = true) : digit? 10 c = some (c.toNat - '0'.toNat) := by
  rw [Char.isDigit, Bool.and_eq_true, decide_eq_true_iff, decide_eq_true_iff] at h
  have hdigit : '0' ≤ c ∧ c ≤ '9' := h
  have hle : c.toNat ≤ 57 := h.2
  have hlt : c.toNat - 48 < 10 := by omega
  simp [digit?, hexValue?, hdigit, hlt]

lemma digits?_of_isNumeral (h : IsNumeral digits) :
    digits? 10 digits = some (decimalValue digits) := by
  obtain ⟨hne, hdigits⟩ := h
  induction digits using List.reverseRecOn with
  | nil => exact absurd rfl hne
  | append_singleton digits c ih =>
    rw [List.forall_mem_append, List.forall_mem_singleton] at hdigits
    have hc := digit?_of_isDigit hdigits.2
    by_cases hnil : digits = []
    · subst hnil
      simp [digits?, hc, ofDigits, decimalValue]
    · simp [digits?_append c (ih hnil hdigits.1), hc, decimalValue]

/-- A text of digits stands for the number that they write if it has a place. -/
theorem getD_int?_of_isDigit (h : ∀ c ∈ digits, c.isDigit = true) (other : Int) :
    (int? 32 digits).getD other = decimalOr other digits := by
  have hsign (sign : Char) (hs : sign.isDigit = false) : ∀ rest, digits ≠ sign :: rest := by
    rintro rest rfl
    rw [h sign List.mem_cons_self] at hs
    cases hs
  have hwidth : wordCount (32 - 1) = 2147483648 := rfl
  rw [int?, word?, hwidth, decimalOr]
  · by_cases hne : digits = []
    · subst hne
      rfl
    · rw [digits?_of_isNumeral ⟨hne, h⟩, Option.filter_some]
      by_cases hle : decimalValue digits ≤ 2147483647
      · have hlt : decimalValue digits < 2147483648 := by omega
        rw [if_pos (decide_eq_true hlt), if_pos ⟨hne, hle⟩]
        rfl
      · have hlt : ¬decimalValue digits < 2147483648 := by omega
        rw [if_neg (by rwa [decide_eq_true_iff]), if_neg fun hfits => hle hfits.2]
        rfl
  · exact hsign '+' (by decide)
  · exact hsign '-' (by decide)

/-! ### What numerals are written with -/

variable {base v : Nat} {s : List Char}

lemma exists_digit?_of_digits? (h : digits? base s = some v) :
    s ≠ [] ∧ ∀ c ∈ s, ∃ d, digit? base c = some d := by
  unfold digits? at h
  split_ifs at h with hempty
  obtain ⟨ds, hds, -⟩ := Option.map_eq_some_iff.1 h
  refine ⟨by simpa using hempty, ?_⟩
  clear h hempty
  induction s generalizing ds with
  | nil => exact List.forall_mem_nil _
  | cons c s ih =>
    simp only [List.mapM_cons, Option.bind_eq_bind, Option.bind_eq_some_iff] at hds
    obtain ⟨d, hd, ds, hds, -⟩ := hds
    exact List.forall_mem_cons.2 ⟨⟨d, hd⟩, ih ds hds⟩

/-- An unsigned numeral is written with digits and a plus sign. -/
lemma exists_digit?_of_word? (h : word? base bits s = some v) :
    s ≠ [] ∧ ∀ c ∈ s, c = '+' ∨ ∃ d, digit? base c = some d := by
  unfold word? at h
  have h := (Option.filter_eq_some_iff.1 h).1
  split at h
  · have hdigits := exists_digit?_of_digits? h
    exact ⟨List.cons_ne_nil _ _,
      List.forall_mem_cons.2 ⟨.inl rfl, fun c hc => .inr (hdigits.2 c hc)⟩⟩
  · have hdigits := exists_digit?_of_digits? h
    exact ⟨hdigits.1, fun c hc => .inr (hdigits.2 c hc)⟩

/-- A signed numeral is written with digits and a sign. -/
lemma exists_digit?_of_int? {n : Int} (h : int? bits s = some n) :
    s ≠ [] ∧ ∀ c ∈ s, c = '-' ∨ c = '+' ∨ ∃ d, digit? 10 c = some d := by
  unfold int? at h
  split at h
  · obtain ⟨_, h, -⟩ := Option.map_eq_some_iff.1 h
    obtain ⟨v, hv, -⟩ := Option.bind_eq_some_iff.1 h
    have hdigits := exists_digit?_of_digits? (Option.filter_eq_some_iff.1 hv).1
    exact ⟨List.cons_ne_nil _ _,
      List.forall_mem_cons.2 ⟨.inl rfl, fun c hc => .inr (.inr (hdigits.2 c hc))⟩⟩
  · obtain ⟨_, h, -⟩ := Option.map_eq_some_iff.1 h
    obtain ⟨v, hv, -⟩ := Option.bind_eq_some_iff.1 h
    obtain ⟨hne, hdigits⟩ := exists_digit?_of_word? hv
    exact ⟨hne, fun c hc => .inr (hdigits c hc)⟩

end SupplicantWatch.Text
