import Mathlib.Data.List.Forall2
import Mathlib.Tactic.Common
import SupplicantWatch.Proofs.Ssid.Escape

/-!
# Every spelling of a network name

The supplicant has one written form for each byte, but more forms are understood: a byte may be
spelled in hexadecimal or octal where it need not be, and each byte in its own way. A spelling ends
where it ends, whatever comes behind it, so neighbours do not change each other. Main statement:
`decode_of_spells`.
-/

namespace SupplicantWatch.Ssid

variable {b : UInt8} {c d : Char} {s : List Char}

/-! ### Spellings of a byte -/

/-- The bytes that a backslash and a single character stand for. -/
def letters : List (UInt8 × Char) :=
  [(0x22, '\x22'), (0x5c, '\\'), (0x0a, 'n'), (0x0d, 'r'), (0x09, 't'), (0x1b, 'e')]

/-- The hexadecimal digit with a value below sixteen, in either case. -/
def digitForms (n : Nat) : List Char :=
  [Nat.digitChar n, (Nat.digitChar n).toUpper]

/-- The ways to spell a byte. -/
inductive Spells : UInt8 → List Char → Prop where
  /-- A printable ASCII byte other than the backslash stands for itself. -/
  | plain {b : UInt8} (h : 0x20 ≤ b.toNat ∧ b.toNat ≤ 0x7e) (hne : b ≠ 0x5c) :
    Spells b [Char.ofNat b.toNat]
  | letter {b : UInt8} {c : Char} (h : (b, c) ∈ letters) : Spells b ['\\', c]
  | hex {b : UInt8} {c d : Char} (hc : c ∈ digitForms (b.toNat / 16))
      (hd : d ∈ digitForms (b.toNat % 16)) : Spells b ['\\', 'x', c, d]
  /-- There are three octal digits, even where fewer would do. -/
  | octal (b : UInt8) :
    Spells b ['\\', Nat.digitChar (b.toNat / 64), Nat.digitChar (b.toNat / 8 % 8),
      Nat.digitChar (b.toNat % 8)]

/-! ### One spelling -/

/-- A printable byte is the one byte of its character. -/
lemma encodeChar_of_printable (h : 0x20 ≤ b.toNat ∧ b.toNat ≤ 0x7e) (hne : b ≠ 0x5c) :
    Char.ofNat b.toNat ≠ '\\' ∧ String.utf8EncodeChar (Char.ofNat b.toNat) = [b] := by
  revert b
  apply forall_byte
  decide +kernel

lemma letterByte?_of_mem_letters (h : (b, c) ∈ letters) : letterByte? c = some b := by
  have all : ∀ entry ∈ letters, letterByte? entry.2 = some entry.1 := by decide
  exact all (b, c) h

lemma digit?_of_mem_digitForms {n : Nat} (hn : n < 16) (h : c ∈ digitForms n) :
    Text.digit? 16 c = some n ∧ c ≠ '+' := by
  have lower : ∀ k < 16, Text.digit? 16 (Nat.digitChar k) = some k ∧ Nat.digitChar k ≠ '+' := by
    decide
  have upper : ∀ k < 16, Text.digit? 16 (Nat.digitChar k).toUpper = some k
      ∧ (Nat.digitChar k).toUpper ≠ '+' := by
    decide
  simp only [digitForms, List.mem_cons, List.not_mem_nil, or_false] at h
  rcases h with rfl | rfl
  · exact lower n hn
  · exact upper n hn

/-- The two digits of a byte read as that byte, and neither is taken for a sign. -/
lemma word?_digitForms (hc : c ∈ digitForms (b.toNat / 16)) (hd : d ∈ digitForms (b.toNat % 16)) :
    Text.word? 16 8 [c, d] = some b.toNat := by
  have hlt := b.toNat_lt
  obtain ⟨hfirst, hsign⟩ := digit?_of_mem_digitForms (by omega) hc
  obtain ⟨hsecond, -⟩ := digit?_of_mem_digitForms (by omega) hd
  have hone : Text.digits? 16 [c] = some (b.toNat / 16) := by
    simp [Text.digits?, hfirst, Text.ofDigits]
  have htwo : Text.digits? 16 [c, d] = some b.toNat := by
    have h := Text.digits?_append d hone
    rw [hsecond, Option.map_some, Nat.div_add_mod] at h
    exact h
  have hbyte : b.toNat < Text.wordCount 8 := hlt
  unfold Text.word?
  split
  · next heq => exact absurd (List.cons.inj heq).1 hsign
  · dsimp only
    rw [htwo]
    exact Option.filter_some_pos (decide_eq_true hbyte)

lemma isOctal_digitChar {n : Nat} (h : n < 8) : isOctal (Nat.digitChar n) = true := by
  have all : ∀ k < 8, isOctal (Nat.digitChar k) = true := by decide
  exact all n h

/-- An octal digit begins no other escape. -/
lemma letterByte?_of_isOctal (h : isOctal c = true) : letterByte? c = none ∧ c ≠ 'x' := by
  constructor
  · unfold letterByte?
    split_ifs with h₁ h₂ h₃ h₄ h₅ h₆
    case neg => rfl
    all_goals
      subst c
      revert h
      decide
  · rintro rfl
    revert h
    decide

/-- Three octal digits are taken, and no more. -/
lemma afterBackslash_octal {e : Char} (hc : isOctal c = true) (hd : isOctal d = true)
    (he : isOctal e = true) (rest : List Char) :
    afterBackslash (c :: d :: e :: rest) = ([UInt8.ofNat (octalValue [c, d, e])], rest) := by
  obtain ⟨hletter, hx⟩ := letterByte?_of_isOctal hc
  have hdigits : ((c :: d :: e :: rest).take 3).takeWhile isOctal = [c, d, e] := by
    simp [hc, hd, he]
  rw [afterBackslash, hletter]
  dsimp only
  rw [if_neg hx, if_pos hc, hdigits]
  rfl

lemma octalValue_digits (b : UInt8) :
    octalValue [Nat.digitChar (b.toNat / 64), Nat.digitChar (b.toNat / 8 % 8),
      Nat.digitChar (b.toNat % 8)] = b.toNat := by
  revert b
  apply forall_byte
  decide +kernel

/-- However a byte is spelled, it is read as that byte, and what follows is read on its own. -/
theorem unescape_append_of_spells (h : Spells b s) (rest : List Char) :
    unescape (s ++ rest) = b :: unescape rest := by
  cases h with
  | plain h hne =>
    obtain ⟨hc, hbytes⟩ := encodeChar_of_printable h hne
    rw [List.singleton_append, unescape, if_neg hc, hbytes, List.singleton_append]
  | letter h => exact unescape_letter (letterByte?_of_mem_letters h) rest
  | @hex c d hc hd =>
    have hpair : hexPair? (c :: d :: rest) = some (b, rest) := by
      rw [hexPair?, word?_digitForms hc hd, Option.map_some, UInt8.ofNat_toNat]
    have hafter : afterBackslash ('x' :: c :: d :: rest) = ([b], rest) := by
      rw [afterBackslash]
      simp [letterByte?, hpair]
    change unescape ('\\' :: 'x' :: c :: d :: rest) = _
    rw [unescape, if_pos rfl, hafter, List.singleton_append]
  | octal =>
    have hlt := b.toNat_lt
    have hafter := afterBackslash_octal (isOctal_digitChar (n := b.toNat / 64) (by omega))
      (isOctal_digitChar (n := b.toNat / 8 % 8) (by omega))
      (isOctal_digitChar (n := b.toNat % 8) (by omega)) rest
    rw [octalValue_digits, UInt8.ofNat_toNat] at hafter
    change unescape ('\\' :: Nat.digitChar (b.toNat / 64) :: Nat.digitChar (b.toNat / 8 % 8)
      :: Nat.digitChar (b.toNat % 8) :: rest) = _
    rw [unescape, if_pos rfl, hafter, List.singleton_append]

/-! ### Whole names -/

/-- A name that is spelled byte by byte is read as that name. -/
lemma unescape_flatten {name : List UInt8} {spellings : List (List Char)}
    (h : List.Forall₂ Spells name spellings) : unescape spellings.flatten = name := by
  induction h with
  | nil =>
    rw [List.flatten_nil, unescape]
  | cons hs _ ih => rw [List.flatten_cons, unescape_append_of_spells hs, ih]

/-- A text without a backslash is read as its own bytes. -/
lemma unescape_of_notMem (h : '\\' ∉ s) : unescape s = Utf8.encode s := by
  induction s with
  | nil =>
    rw [unescape]
    rfl
  | cons c s ih =>
    rw [List.mem_cons, not_or] at h
    rw [unescape, if_neg (Ne.symm h.1), ih h.2]
    rfl

/-- A name reads as the text of its bytes, however each of them is spelled, and a text without a
backslash reads as itself. -/
theorem decode_of_spells :
    (∀ (name : List UInt8) (spellings : List (List Char)), List.Forall₂ Spells name spellings →
        decode spellings.flatten = String.ofList (Utf8.decodeLossy name))
      ∧ ∀ s : List Char, '\\' ∉ s → decode s = String.ofList s := by
  refine ⟨fun name spellings h => ?_, fun s h => ?_⟩
  · rw [decode, unescape_flatten h]
  · rw [decode, unescape_of_notMem h, Utf8.decodeLossy_encode]

/-- Digits behind an escape of either base, and an `x` behind a backslash that is escaped, are read
as what they are; two bytes in different spellings make one character, and a byte that is none
becomes U+FFFD. -/
theorem decode_of_spells_neighbours :
    List.Forall₂ Spells [0x41, 0x31, 0x5c, 0x78, 0xc3, 0xa9, 0x37, 0xff]
        ["\\x41".toList, ['1'], ['\\', '\\'], ['x'], "\\303".toList, "\\xA9".toList, ['7'],
          "\\377".toList]
      ∧ decode "\\x411\\\\x\\303\\xA97\\377".toList = "A1\\xé7\ufffd"
      ∧ '\\' ∉ "café x41".toList ∧ decode "café x41".toList = "café x41" := by
  have h : List.Forall₂ Spells [0x41, 0x31, 0x5c, 0x78, 0xc3, 0xa9, 0x37, 0xff]
      ["\\x41".toList, ['1'], ['\\', '\\'], ['x'], "\\303".toList, "\\xA9".toList, ['7'],
        "\\377".toList] :=
    .cons (.hex (by decide) (by decide)) <| .cons (.plain (by decide) (by decide)) <|
    .cons (.letter (by decide)) <| .cons (.plain (by decide) (by decide)) <|
    .cons (.octal 0xc3) <| .cons (.hex (by decide) (by decide)) <|
    .cons (.plain (by decide) (by decide)) <| .cons (.octal 0xff) .nil
  have hplain : '\\' ∉ "café x41".toList := by decide
  obtain ⟨hspelled, hself⟩ := decode_of_spells
  refine ⟨h, (hspelled _ _ h).trans ?_, hplain, (hself _ hplain).trans String.ofList_toList⟩
  decide +kernel

end SupplicantWatch.Ssid
