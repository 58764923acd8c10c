import Mathlib.Tactic.Common
import SupplicantWatch.MacAddress
import SupplicantWatch.Proofs.Text.Split
import SupplicantWatch.Text.Base64
import SupplicantWatch.Text.Numeral
import SupplicantWatch.Text.Utf8

/-!
# Bytes written in characters

Which texts are read as bytes, and as which. In hexadecimal either case of a digit will do and
nothing else; in Base64 each sequence of bytes has one text. Main statements:
`hexBytes?_eq_some_iff` and `Base64.decode?_eq_some_iff`.
-/

namespace SupplicantWatch

/-- What holds of the ASCII characters one by one holds of every character below U+0080. -/
lemma forall_ascii {p : Char → Prop} (h : ∀ n < 128, p (Char.ofNat n)) {c : Char}
    (hc : c.toNat < 128) : p c := by
  have hp := h c.toNat hc
  rwa [Char.ofNat_toNat] at hp

namespace Text

variable {c : Char} {v : Nat} {s : List Char} {bytes : List UInt8}

/-! ### Hexadecimal -/

lemma toNat_lt_of_hexValue? (h : hexValue? c = some v) : c.toNat < 128 := by
  have hle {d : Char} (hd : c ≤ d) : c.toNat ≤ d.toNat := hd
  unfold hexValue? at h
  split_ifs at h with h₁ h₂ h₃
  · have h' : c.toNat ≤ 57 := hle h₁.2
    omega
  · have h' : c.toNat ≤ 102 := hle h₂.2
    omega
  · have h' : c.toNat ≤ 70 := hle h₃.2
    omega

/-- Only ASCII characters become ASCII characters in lower case. -/
lemma toNat_lt_of_toLower (h : c.toLower.toNat < 128) : c.toNat < 128 := by
  unfold Char.toLower at h
  split at h
  · next hc =>
    have hz : c.toNat ≤ 90 := hc.2
    omega
  · exact h

/-- A character has a value exactly if it is, in lower case, the digit with that value. -/
lemma hexValue?_eq_some_iff : hexValue? c = some v ↔ v < 16 ∧ c.toLower = Nat.digitChar v := by
  constructor
  · intro h
    have hvalue : ∀ n < 128, ∀ v ∈ hexValue? (Char.ofNat n),
        v < 16 ∧ (Char.ofNat n).toLower = Nat.digitChar v := by
      decide +kernel
    exact forall_ascii
      (p := fun c => ∀ v ∈ hexValue? c, v < 16 ∧ c.toLower = Nat.digitChar v) hvalue
      (toNat_lt_of_hexValue? h) v h
  · rintro ⟨hv, h⟩
    have hdigit : ∀ n < 128, ∀ v < 16, (Char.ofNat n).toLower = Nat.digitChar v →
        hexValue? (Char.ofNat n) = some v := by
      decide +kernel
    have hascii : ∀ v < 16, (Nat.digitChar v).toNat < 128 := by decide
    exact forall_ascii (p := fun c => ∀ v < 16, c.toLower = Nat.digitChar v → hexValue? c = some v)
      hdigit (toNat_lt_of_toLower (h ▸ hascii v hv)) v hv h

/-- What holds of every digit holds of the digits of a byte. -/
lemma forall_mem_hexByte {p : Char → Prop} (h : ∀ k < 16, p (Nat.digitChar k)) (b : UInt8) :
    ∀ c ∈ hexByte b, p c := by
  have hb := b.toNat_lt
  simp only [hexByte, List.forall_mem_cons]
  exact ⟨h _ (by omega), h _ (by omega), List.forall_mem_nil p⟩

/-- The digits of a byte are those of its two halves. -/
lemma hexByte_ofNat {v w : Nat} (hv : v < 16) (hw : w < 16) :
    hexByte (UInt8.ofNat (16 * v + w)) = [Nat.digitChar v, Nat.digitChar w] := by
  have hdiv : (16 * v + w) / 16 = v := by omega
  have hmod : (16 * v + w) % 16 = w := by omega
  rw [hexByte, Utf8.toNat_byte (by omega), hdiv, hmod]

lemma hexByte_inj {b b' : UInt8} : hexByte b = hexByte b' ↔ b = b' := by
  have hdigit : ∀ v < 16, ∀ w < 16, Nat.digitChar v = Nat.digitChar w → v = w := by decide
  refine ⟨fun h => ?_, congrArg hexByte⟩
  obtain ⟨hhi, hlo⟩ : Nat.digitChar (b.toNat / 16) = Nat.digitChar (b'.toNat / 16)
      ∧ Nat.digitChar (b.toNat % 16) = Nat.digitChar (b'.toNat % 16) := by
    simpa [hexByte] using h
  have hb := b.toNat_lt
  have hb' := b'.toNat_lt
  have hhi := hdigit _ (by omega) _ (by omega) hhi
  have hlo := hdigit _ (by omega) _ (by omega) hlo
  exact UInt8.toNat_inj.1 (by omega)

/-- A text is, in lower case, the hexadecimal digits of some bytes, two for each. -/
def IsHex (s : List Char) (bytes : List UInt8) : Prop :=
  s.map Char.toLower = bytes.flatMap hexByte

instance (s : List Char) (bytes : List UInt8) : Decidable (IsHex s bytes) :=
  inferInstanceAs (Decidable (_ = _))

/-- A text is read as some bytes exactly if it is their digits, in whatever case each digit is. -/
theorem hexBytes?_eq_some_iff : hexBytes? s = some bytes ↔ IsHex s bytes := by
  unfold IsHex
  fun_induction hexBytes? s generalizing bytes with
  | case1 => cases bytes <;> simp [hexByte]
  | case2 a => cases bytes <;> simp [hexByte]
  | case3 a b s ih =>
    simp only [Option.bind_eq_bind, Option.bind_eq_some_iff, Option.pure_def, Option.some.injEq, ih,
      hexValue?_eq_some_iff]
    constructor
    · rintro ⟨hi, ⟨hhi, ha⟩, lo, ⟨hlo, hb⟩, rest, hrest, rfl⟩
      have hdiv : (16 * hi + lo) / 16 = hi := by omega
      have hmod : (16 * hi + lo) % 16 = lo := by omega
      rw [List.flatMap_cons, hexByte, Utf8.toNat_byte (by omega), hdiv, hmod, ← ha, ← hb, ← hrest]
      rfl
    · intro h
      cases bytes with
      | nil => cases h
      | cons byte bytes =>
        simp only [List.map_cons, List.flatMap_cons, hexByte, List.cons_append, List.nil_append,
          List.cons.injEq] at h
        obtain ⟨ha, hb, hrest⟩ := h
        have hlt := byte.toNat_lt
        refine ⟨byte.toNat / 16, ⟨by omega, ha⟩, byte.toNat % 16, ⟨by omega, hb⟩, bytes, hrest, ?_⟩
        rw [Nat.div_add_mod, UInt8.ofNat_toNat]

end Text

/-- What holds of every digit and of a colon holds of the characters of an address. -/
lemma MacAddress.forall_mem_toChars {p : Char → Prop} (hcolon : p ':')
    (h : ∀ k < 16, p (Nat.digitChar k)) (m : MacAddress) : ∀ c ∈ m.toChars, p c := by
  refine Text.forall_mem_intercalate hcolon fun group hgroup => ?_
  obtain ⟨b, -, rfl⟩ := List.mem_map.1 hgroup
  exact Text.forall_mem_hexByte h b

namespace Base64

variable {c w x y z : Char} {n : Nat} {s : List Char} {bytes : List UInt8}

/-! ### Base64 -/

lemma toNat_lt_of_value? (h : value? c = some n) : c.toNat < 128 := by
  have hle {d : Char} (hd : c ≤ d) : c.toNat ≤ d.toNat := hd
  unfold value? at h
  split_ifs at h with h₁ h₂ h₃ h₄ h₅
  · have h' : c.toNat ≤ 90 := hle h₁.2
    omega
  · have h' : c.toNat ≤ 122 := hle h₂.2
    omega
  · have h' : c.toNat ≤ 57 := hle h₃.2
    omega
  · rw [h₄]
    decide
  · rw [h₅]
    decide

/-- A character that has a value is the one that stands for it. -/
lemma symbol_of_value? (h : value? c = some n) : n < 64 ∧ symbol n = c := by
  have hsymbol : ∀ k < 128, ∀ n ∈ value? (Char.ofNat k), n < 64 ∧ symbol n = Char.ofNat k := by
    decide +kernel
  exact forall_ascii (p := fun c => ∀ n ∈ value? c, n < 64 ∧ symbol n = c) hsymbol
    (toNat_lt_of_value? h) n h

/-- Four characters with a value each are what their three bytes are written as, in front of the
text of other bytes. -/
lemma encode_cons_cons_cons {p q r t : Nat} (hp : p < 64) (hq : q < 64) (hr : r < 64) (ht : t < 64)
    (bytes : List UInt8) :
    encode (UInt8.ofNat (p * 4 + q / 16) :: UInt8.ofNat (q % 16 * 16 + r / 4)
        :: UInt8.ofNat (r % 4 * 64 + t) :: bytes)
      = symbol p :: symbol q :: symbol r :: symbol t :: encode bytes := by
  have h₁ : (p * 4 + q / 16) / 4 = p := by omega
  have h₂ : (p * 4 + q / 16) % 4 * 16 + (q % 16 * 16 + r / 4) / 16 = q := by omega
  have h₃ : (q % 16 * 16 + r / 4) % 16 * 4 + (r % 4 * 64 + t) / 64 = r := by omega
  have h₄ : (r % 4 * 64 + t) % 64 = t := by omega
  rw [encode, Utf8.toNat_byte (by omega), Utf8.toNat_byte (by omega), Utf8.toNat_byte (by omega),
    h₁, h₂, h₃, h₄]

/-- The last four characters are what the bytes read from them are written as. -/
lemma encode_of_decodeLast? (h : decodeLast? w x y z = some bytes) :
    [w, x, y, z] = encode bytes := by
  simp only [decodeLast?, Option.bind_eq_bind, Option.bind_eq_some_iff, Option.pure_def] at h
  obtain ⟨p, hw, q, hx, h⟩ := h
  obtain ⟨hp, rfl⟩ := symbol_of_value? hw
  obtain ⟨hq, rfl⟩ := symbol_of_value? hx
  have h₁ : (p * 4 + q / 16) / 4 = p := by omega
  -- By the number of padding characters: two, one and none. The bits that they leave over are zero.
  split_ifs at h with hy hzero hz
  · obtain ⟨rfl, hzero⟩ := hzero
    cases h
    have h₂ : (p * 4 + q / 16) % 4 * 16 = q := by omega
    rw [encode, Utf8.toNat_byte (by omega), h₁, h₂, hy]
  · obtain ⟨r, hv, hbytes⟩ := Option.bind_eq_some_iff.1 h
    obtain ⟨hr, rfl⟩ := symbol_of_value? hv
    split_ifs at hbytes with hzero
    cases hbytes
    have h₂ : (p * 4 + q / 16) % 4 * 16 + (q % 16 * 16 + r / 4) / 16 = q := by omega
    have h₃ : (q % 16 * 16 + r / 4) % 16 * 4 = r := by omega
    rw [encode, Utf8.toNat_byte (by omega), Utf8.toNat_byte (by omega), h₁, h₂, h₃, hz]
  · obtain ⟨r, hv, hrest⟩ := Option.bind_eq_some_iff.1 h
    obtain ⟨t, hv', hbytes⟩ := Option.bind_eq_some_iff.1 hrest
    obtain ⟨hr, rfl⟩ := symbol_of_value? hv
    obtain ⟨ht, rfl⟩ := symbol_of_value? hv'
    cases hbytes
    exact (encode_cons_cons_cons hp hq hr ht []).symm

/-- A text that is read as some bytes is what these are written as. -/
lemma eq_encode_of_decode? (h : decode? s = some bytes) : s = encode bytes := by
  fun_induction decode? s generalizing bytes with
  | case1 =>
    cases h
    rfl
  | case2 w x y z rest hrest =>
    rw [List.isEmpty_iff.1 hrest]
    exact encode_of_decodeLast? h
  | case3 w x y z rest hrest ih =>
    simp only [Option.bind_eq_bind, Option.bind_eq_some_iff, Option.pure_def,
      Option.some.injEq] at h
    obtain ⟨p, hw, q, hx, r, hy, t, hz, bytes, hbytes, rfl⟩ := h
    obtain ⟨hp, rfl⟩ := symbol_of_value? hw
    obtain ⟨hq, rfl⟩ := symbol_of_value? hx
    obtain ⟨hr, rfl⟩ := symbol_of_value? hy
    obtain ⟨ht, rfl⟩ := symbol_of_value? hz
    rw [encode_cons_cons_cons hp hq hr ht, ih hbytes]
  | case4 => cases h

/-- A text is read as some bytes exactly if it is what they are written as. -/
theorem decode?_eq_some_iff : decode? s = some bytes ↔ s = encode bytes := by
  constructor
  · exact eq_encode_of_decode?
  · rintro rfl
    exact decode?_encode bytes

lemma encode_inj {bytes' : List UInt8} : encode bytes = encode bytes' ↔ bytes = bytes' := by
  rw [← decode?_eq_some_iff, decode?_encode, Option.some_inj]

/-- What holds of every symbol and of the padding holds of the text of some bytes. -/
lemma forall_mem_encode {p : Char → Prop} (hpad : p '=') (h : ∀ k < 64, p (symbol k))
    (bytes : List UInt8) : ∀ c ∈ encode bytes, p c := by
  fun_induction encode bytes with
  | case1 => exact List.forall_mem_nil p
  | case2 a =>
    have ha := a.toNat_lt
    simp only [List.forall_mem_cons]
    exact ⟨h _ (by omega), h _ (by omega), hpad, hpad, List.forall_mem_nil p⟩
  | case3 a b =>
    have ha := a.toNat_lt
    have hb := b.toNat_lt
    simp only [List.forall_mem_cons]
    exact ⟨h _ (by omega), h _ (by omega), h _ (by omega), hpad, List.forall_mem_nil p⟩
  | case4 a b c bytes ih =>
    have ha := a.toNat_lt
    have hb := b.toNat_lt
    have hc := c.toNat_lt
    simp only [List.forall_mem_cons]
    exact ⟨h _ (by omega), h _ (by omega), h _ (by omega), h _ (by omega), ih⟩

end Base64

end SupplicantWatch
