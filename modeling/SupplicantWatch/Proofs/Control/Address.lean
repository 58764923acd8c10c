import Mathlib.Tactic.Common
import SupplicantWatch.Proofs.Text.Encoding
import SupplicantWatch.Proofs.Text.Split

/-!
# Addresses in a line

A written address is taken off the text that it begins, whatever follows. A part of a line is passed
over in the search for one where every position has a character within reach that no address has.
Main statements: `takeLower?_toChars_append` and `search_append_of_noAddress`.
-/

namespace SupplicantWatch.MacAddress

variable {α : Type} {scan : List Char → Option α} {front s : List Char}

/-! ### A written address -/

lemma length_toChars (m : MacAddress) : m.toChars.length = 17 := by
  simp [toChars, octets, List.intercalate, Text.hexByte]

lemma isLower_toChars (m : MacAddress) : isLower m.toChars = true := by
  have hbyte (b : UInt8) : (Text.hexByte b).all Text.isLowerHex = true :=
    List.all_eq_true.2 (Text.forall_mem_hexByte (by decide) b)
  have hlength (b : UInt8) : (Text.hexByte b).length = 2 := rfl
  rw [isLower, splitOn_toChars]
  simp [octets, hbyte, hlength]

/-- A written address is taken off the front of a text. -/
lemma takeLower?_toChars_append (m : MacAddress) (rest : List Char) :
    takeLower? (m.toChars ++ rest) = some (m.toChars, rest) := by
  have htake : (m.toChars ++ rest).take 17 = m.toChars := List.take_left' m.length_toChars
  have hdrop : (m.toChars ++ rest).drop 17 = rest := List.drop_left' m.length_toChars
  rw [takeLower?, htake, hdrop, if_pos m.isLower_toChars]

lemma length_of_isLower (h : isLower s = true) : s.length = 17 := by
  simp only [isLower, Bool.and_eq_true, beq_iff_eq, List.all_eq_true] at h
  obtain ⟨hlength, hgroups⟩ := h
  have hwhole : [':'].intercalate (s.splitOn ':') = s := List.intercalate_splitOn ':'
  match hs : s.splitOn ':', hlength with
  | [g₁, g₂, g₃, g₄, g₅, g₆], _ =>
    rw [hs] at hgroups hwhole
    simp only [List.forall_mem_cons] at hgroups
    rw [← hwhole]
    simp [List.intercalate, hgroups]

lemma takeLower?_eq_some_iff {address rest : List Char} :
    takeLower? s = some (address, rest) ↔ s = address ++ rest ∧ isLower address = true := by
  rw [takeLower?]
  constructor
  · intro h
    split_ifs at h with hlower
    cases h
    exact ⟨(List.take_append_drop 17 s).symm, hlower⟩
  · rintro ⟨rfl, hlower⟩
    rw [List.take_left' (length_of_isLower hlower), List.drop_left' (length_of_isLower hlower),
      if_pos hlower]

/-! ### No address -/

/-- Every character of a lower-case address is a colon or a digit. -/
lemma forall_mem_of_isLower (h : isLower s = true) :
    ∀ c ∈ s, c = ':' ∨ Text.isLowerHex c = true := by
  simp only [isLower, Bool.and_eq_true, List.all_eq_true] at h
  obtain ⟨-, hgroups⟩ := h
  have hwhole : [':'].intercalate (s.splitOn ':') = s := List.intercalate_splitOn ':'
  rw [← hwhole]
  exact Text.forall_mem_intercalate (.inl rfl) fun group hgroup c hc =>
    .inr ((hgroups group hgroup).2 c hc)

lemma notMem_toChars {c : Char} (hcolon : c ≠ ':') (hhex : Text.isLowerHex c = false)
    (m : MacAddress) : c ∉ m.toChars := by
  intro hmem
  rcases forall_mem_of_isLower m.isLower_toChars c hmem with rfl | hlower
  · exact hcolon rfl
  · rw [hhex] at hlower
    cases hlower

/-- Every position in a part of a line has a character within reach that no address has. -/
def NoAddress (front : List Char) : Prop :=
  ∀ t ∈ front.tails, t ≠ [] → (t.take 17).any fun c => c != ':' && !Text.isLowerHex c

instance (front : List Char) : Decidable (NoAddress front) :=
  inferInstanceAs (Decidable (∀ t ∈ front.tails, _))

lemma NoAddress.takeLower?_append (h : NoAddress front) (rest : List Char) :
    ∀ t, t <:+ front → t ≠ [] → takeLower? (t ++ rest) = none := by
  intro t ht hne
  obtain ⟨c, hc, hnot⟩ := List.any_eq_true.1 (h t ((List.mem_tails t front).2 ht) hne)
  rw [Bool.and_eq_true, bne_iff_ne, Bool.not_eq_true'] at hnot
  have hmem : c ∈ (t ++ rest).take 17 := by
    rw [List.take_append]
    exact List.mem_append_left _ hc
  rw [takeLower?, if_neg]
  intro hlower
  rcases forall_mem_of_isLower hlower c hmem with rfl | hhex
  · exact hnot.1 rfl
  · rw [hnot.2] at hhex
    cases hhex

/-- The search for something that begins with an address passes over a part without one. -/
lemma search_append_of_noAddress (hscan : ∀ t, takeLower? t = none → scan t = none)
    (h : NoAddress front) (rest : List Char) :
    Text.search scan (front ++ rest) = Text.search scan rest :=
  Text.search_append fun t ht hne => hscan _ (h.takeLower?_append rest t ht hne)

end SupplicantWatch.MacAddress
