import Mathlib.Data.List.Infix
import Mathlib.Tactic.Common
import SupplicantWatch.Ssid

/-!
# What stands in a written network name

A name is written byte by byte, and only a space is written with a space. So where a plain word
stands behind a space in a written name, its bytes stand behind a space in the name. Main statement:
`infix_escape_iff`.
-/

namespace SupplicantWatch.Ssid

variable {name : List UInt8} {c : Char} {w front rest : List Char}

lemma escape_append (name name' : List UInt8) :
    escape (name ++ name') = escape name ++ escape name' :=
  List.flatMap_append

lemma escape_cons (b : UInt8) (name : List UInt8) :
    escape (b :: name) = escapeByte b ++ escape name :=
  List.flatMap_cons

/-- The text of a written name is that of the name. -/
lemma decode_escape (name : List UInt8) :
    decode (escape name) = String.ofList (Utf8.decodeLossy name) := by
  rw [decode, unescape_escape]

/-! ### One byte -/

/-- What holds of the 256 bytes one by one holds of every byte. -/
lemma forall_byte {p : UInt8 → Prop} (h : ∀ k : Fin 256, p (UInt8.ofNat k)) (b : UInt8) : p b := by
  have hb := h ⟨b.toNat, b.toNat_lt⟩
  rw [UInt8.ofNat_toNat] at hb
  exact hb

lemma eq_of_space_mem_escapeByte {b : UInt8} (h : ' ' ∈ escapeByte b) : b = 0x20 := by
  revert b
  apply forall_byte
  decide +kernel

/-- What is written without a backslash stands for itself. -/
lemma escapeByte_cases (b : UInt8) :
    (escapeByte b).head? = some '\\'
      ∨ escapeByte b = [Char.ofNat b.toNat] ∧ String.utf8EncodeChar (Char.ofNat b.toNat) = [b] := by
  revert b
  apply forall_byte
  decide +kernel

/-! ### A written name in parts -/

/-- A written name falls apart at a space of the name. -/
lemma exists_of_escape_eq_append_space (h : escape name = front ++ ' ' :: rest) :
    ∃ name₁ name₂, name = name₁ ++ 0x20 :: name₂ ∧ escape name₁ = front
      ∧ escape name₂ = rest := by
  induction name generalizing front with
  | nil =>
    have hne : front ++ ' ' :: rest ≠ [] := by simp
    exact absurd h.symm hne
  | cons b name ih =>
    rw [escape_cons, List.append_eq_append_iff] at h
    -- The space is behind what the first byte is written as, or within that.
    rcases h with ⟨front', rfl, h⟩ | ⟨tail, hb, h⟩
    · obtain ⟨name₁, name₂, rfl, hfront, hrest⟩ := ih h
      exact ⟨b :: name₁, name₂, rfl, by rw [escape_cons, hfront], hrest⟩
    · cases tail with
      | nil =>
        have hspace : escape name = [] ++ ' ' :: rest := h.symm
        obtain ⟨name₁, name₂, rfl, hfront, hrest⟩ := ih hspace
        refine ⟨b :: name₁, name₂, rfl, ?_, hrest⟩
        rw [escape_cons, hfront, hb]
        simp
      | cons d tail =>
        obtain ⟨rfl, hrest⟩ := List.cons.inj h
        -- Only a space is written with one, and then with nothing else.
        have hmem : ' ' ∈ escapeByte b := by
          rw [hb]
          simp
        have heq := eq_of_space_mem_escapeByte hmem
        subst heq
        have hspace : escapeByte 0x20 = [' '] := by decide
        rw [hspace] at hb
        obtain ⟨rfl, htail⟩ : front = [] ∧ tail = [] := by
          cases front with
          | nil => simpa using hb
          | cons e front => simp at hb
        refine ⟨[], name, rfl, rfl, ?_⟩
        rw [hrest, htail]
        rfl

lemma exists_of_escape_eq_cons (hc : c ≠ '\\') (h : escape name = c :: rest) :
    ∃ name', name = String.utf8EncodeChar c ++ name' ∧ escape name' = rest := by
  cases name with
  | nil => cases h
  | cons b name =>
    rw [escape_cons] at h
    rcases escapeByte_cases b with hb | ⟨hb, hbytes⟩
    · obtain ⟨tail, hb⟩ := List.head?_eq_some_iff.1 hb
      rw [hb, List.cons_append] at h
      exact absurd (List.cons.inj h).1.symm hc
    · rw [hb, List.singleton_append] at h
      obtain ⟨rfl, hrest⟩ := List.cons.inj h
      exact ⟨name, by rw [hbytes]; rfl, hrest⟩

/-- What is written with a plain word begins with that word. -/
lemma exists_of_escape_eq_append (hw : '\\' ∉ w) (h : escape name = w ++ rest) :
    ∃ name', name = Utf8.encode w ++ name' ∧ escape name' = rest := by
  induction w generalizing name with
  | nil => exact ⟨name, rfl, h⟩
  | cons c w ih =>
    rw [List.mem_cons, not_or] at hw
    obtain ⟨name₁, rfl, h₁⟩ := exists_of_escape_eq_cons (Ne.symm hw.1) h
    obtain ⟨name₂, rfl, h₂⟩ := ih hw.2 h₁
    refine ⟨name₂, ?_, h₂⟩
    rw [Utf8.encode, Utf8.encode, List.flatMap_cons, List.append_assoc]

/-- A plain word stands behind a space in a written name exactly where its bytes do in the name. -/
theorem infix_escape_iff (hw : escape (Utf8.encode (' ' :: w)) = ' ' :: w) (hplain : '\\' ∉ w) :
    ' ' :: w <:+: escape name ↔ Utf8.encode (' ' :: w) <:+: name := by
  constructor
  · rintro ⟨front, rest, h⟩
    rw [List.append_assoc, List.cons_append] at h
    obtain ⟨name₁, name₂, rfl, -, h₂⟩ := exists_of_escape_eq_append_space h.symm
    obtain ⟨name₃, rfl, -⟩ := exists_of_escape_eq_append hplain h₂
    refine ⟨name₁, name₃, ?_⟩
    rw [Utf8.encode, List.flatMap_cons, List.append_assoc]
    rfl
  · rintro ⟨front, rest, rfl⟩
    rw [escape_append, escape_append, hw]
    exact List.infix_append _ _ _

end SupplicantWatch.Ssid
