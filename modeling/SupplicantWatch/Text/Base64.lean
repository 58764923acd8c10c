/-!
# Base64

The standard alphabet with mandatory padding. Decoding is strict: four characters at a time,
padding only in the last four, and the bits that the padding leaves over must be zero, so a text
decodes to some bytes exactly when it is their encoding. Main statement: what `encode` writes
`decode?` reads back.
-/

namespace SupplicantWatch.Base64

/-- The character that stands for a value below sixty-four. -/
def symbol (n : Nat) : Char :=
  if n < 26 then Char.ofNat (65 + n)
  else if n < 52 then Char.ofNat (71 + n)
  else if n < 62 then Char.ofNat (n - 4)
  else if n = 62 then '+' else '/'

def value? (c : Char) : Option Nat :=
  if 'A' ≤ c ∧ c ≤ 'Z' then some (c.toNat - 65)
  else if 'a' ≤ c ∧ c ≤ 'z' then some (c.toNat - 71)
  else if '0' ≤ c ∧ c ≤ '9' then some (c.toNat + 4)
  else if c = '+' then some 62
  else if c = '/' then some 63
  else none

def encode : List UInt8 → List Char
  | [] => []
  | [a] => [symbol (a.toNat / 4), symbol (a.toNat % 4 * 16), '=', '=']
  | [a, b] =>
    [symbol (a.toNat / 4), symbol (a.toNat % 4 * 16 + b.toNat / 16), symbol (b.toNat % 16 * 4), '=']
  | a :: b :: c :: bs =>
    symbol (a.toNat / 4) :: symbol (a.toNat % 4 * 16 + b.toNat / 16)
      :: symbol (b.toNat % 16 * 4 + c.toNat / 64) :: symbol (c.toNat % 64) :: encode bs

/-- The bytes of the last four characters, of which the third or fourth may be padding. -/
def decodeLast? (w x y z : Char) : Option (List UInt8) := do
  let p ← value? w
  let q ← value? x
  if y = '=' then
    -- The low bits of `q` belong to a byte that is not there.
    if z = '=' ∧ q % 16 = 0 then return [UInt8.ofNat (p * 4 + q / 16)] else none
  else
    let r ← value? y
    if z = '=' then
      if r % 4 = 0 then return [UInt8.ofNat (p * 4 + q / 16), UInt8.ofNat (q % 16 * 16 + r / 4)]
      else none
    else
      let s ← value? z
      return [UInt8.ofNat (p * 4 + q / 16), UInt8.ofNat (q % 16 * 16 + r / 4),
        UInt8.ofNat (r % 4 * 64 + s)]

/-- The bytes of a text that is the encoding of some bytes. -/
def decode? : List Char → Option (List UInt8)
  | [] => some []
  | w :: x :: y :: z :: rest =>
    if rest.isEmpty then decodeLast? w x y z
    else do
      let p ← value? w
      let q ← value? x
      let r ← value? y
      let s ← value? z
      let bytes ← decode? rest
      return UInt8.ofNat (p * 4 + q / 16) :: UInt8.ofNat (q % 16 * 16 + r / 4)
        :: UInt8.ofNat (r % 4 * 64 + s) :: bytes
  | _ => none

private theorem value?_symbol {n : Nat} (h : n < 64) : value? (symbol n) = some n := by
  have all : ∀ k < 64, value? (symbol k) = some k := by decide
  exact all n h

private theorem symbol_ne_pad {n : Nat} (h : n < 64) : symbol n ≠ '=' := by
  have all : ∀ k < 64, symbol k ≠ '=' := by decide
  exact all n h

private theorem ofNat_eq {n : Nat} {b : UInt8} (h : n = b.toNat) : UInt8.ofNat n = b := by
  simp [h]

theorem encode_ne_nil {bs : List UInt8} (h : bs ≠ []) : encode bs ≠ [] := by
  unfold encode
  split <;> simp_all

theorem decode?_encode (bs : List UInt8) : decode? (encode bs) = some bs := by
  match bs with
  | [] => rfl
  | [a] =>
    have ha := a.toNat_lt
    simp only [encode, decode?, decodeLast?, List.isEmpty_nil, if_true]
    rw [value?_symbol (by omega), value?_symbol (by omega)]
    simp only [Option.bind_eq_bind, Option.bind_some]
    rw [if_pos ⟨trivial, by omega⟩, ofNat_eq (b := a) (by omega)]
    rfl
  | [a, b] =>
    have ha := a.toNat_lt
    have hb := b.toNat_lt
    have hr : b.toNat % 16 * 4 < 64 := by omega
    simp only [encode, decode?, decodeLast?, List.isEmpty_nil, if_true, symbol_ne_pad hr, if_false]
    rw [value?_symbol (by omega), value?_symbol (by omega), value?_symbol hr]
    simp only [Option.bind_eq_bind, Option.bind_some]
    rw [if_pos (by omega), ofNat_eq (b := a) (by omega), ofNat_eq (b := b) (by omega)]
    rfl
  | a :: b :: c :: bs =>
    have ha := a.toNat_lt
    have hb := b.toNat_lt
    have hc := c.toNat_lt
    have hr : b.toNat % 16 * 4 + c.toNat / 64 < 64 := by omega
    have hs : c.toNat % 64 < 64 := by omega
    have h0 : UInt8.ofNat (a.toNat / 4 * 4 + (a.toNat % 4 * 16 + b.toNat / 16) / 16) = a :=
      ofNat_eq (by omega)
    have h1 : UInt8.ofNat ((a.toNat % 4 * 16 + b.toNat / 16) % 16 * 16
        + (b.toNat % 16 * 4 + c.toNat / 64) / 4) = b := ofNat_eq (by omega)
    have h2 : UInt8.ofNat ((b.toNat % 16 * 4 + c.toNat / 64) % 4 * 64 + c.toNat % 64) = c :=
      ofNat_eq (by omega)
    by_cases hbs : bs = []
    · subst hbs
      simp only [encode, decode?, decodeLast?, List.isEmpty_nil, if_true, symbol_ne_pad hr,
        symbol_ne_pad hs, if_false]
      rw [value?_symbol (by omega), value?_symbol (by omega), value?_symbol hr, value?_symbol hs]
      simp only [Option.bind_eq_bind, Option.bind_some, h0, h1, h2]
      rfl
    · have hne : (encode bs).isEmpty = false := by
        simpa [List.isEmpty_iff] using encode_ne_nil hbs
      simp only [encode, decode?, hne]
      rw [value?_symbol (by omega), value?_symbol (by omega), value?_symbol hr, value?_symbol hs,
        decode?_encode bs]
      simp only [Option.bind_eq_bind, Option.bind_some, h0, h1, h2]
      rfl
termination_by bs.length

end SupplicantWatch.Base64
