import SupplicantWatch.Text.Blank

/-!
# Numerals

Reading and writing whole numbers of bounded width. A numeral is a non-empty run of ASCII digits
after at most one sign; a value outside the width is refused, while leading zeros are not.
Main statement: the decimal digits of a number read back as that number.
-/

namespace SupplicantWatch.Text

/-- The value of an ASCII digit or of a letter from `a` to `f` in either case. -/
def hexValue? (c : Char) : Option Nat :=
  if '0' ≤ c ∧ c ≤ '9' then some (c.toNat - 48)
  else if 'a' ≤ c ∧ c ≤ 'f' then some (c.toNat - 87)
  else if 'A' ≤ c ∧ c ≤ 'F' then some (c.toNat - 55)
  else none

/-- The value of a digit in the given base, which is at most sixteen. -/
def digit? (base : Nat) (c : Char) : Option Nat :=
  (hexValue? c).filter (· < base)

/-- Whether the character is an ASCII decimal digit or a letter from `a` to `f` in lower case. -/
def isLowerHex (c : Char) : Bool :=
  c.isDigit || ('a' ≤ c && c ≤ 'f')

/-- Each two neighbours of some digits, the least first, as one digit of the squared base. -/
def pairUp (base : Nat) : List Nat → List Nat
  | a :: b :: digits => (a + base * b) :: pairUp base digits
  | digits => digits

private theorem length_pairUp_le (base : Nat) (digits : List Nat) :
    (pairUp base digits).length ≤ digits.length := by
  fun_induction pairUp base digits with
  | case1 a b digits ih => simp only [List.length_cons]; omega
  | case2 => simp

/-- The number that some digits of a base write, the least first. -/
def ofDigits (base : Nat) : List Nat → Nat
  | [] => 0
  | [a] => a
  -- Each pass halves the number of digits and squares their base.
  | a :: b :: digits => ofDigits (base * base) ((a + base * b) :: pairUp base digits)
termination_by digits => digits.length
decreasing_by
  have := length_pairUp_le base digits
  simp only [List.length_cons]
  omega

/-- The value of a non-empty run of digits of the given base. -/
def digits? (base : Nat) (s : List Char) : Option Nat :=
  if s.isEmpty then none else (s.mapM (digit? base)).map fun digits => ofDigits base digits.reverse

/-- The character with the code point written in the given number of hexadecimal digits. -/
def codePoint? (count : Nat) (s : List Char) : Option (Char × List Char) :=
  match if (s.take count).length = count then digits? 16 (s.take count) else none with
  | some n => if n.isValidChar then some (Char.ofNat n, s.drop count) else none
  | none => none

def wordCount (bits : Nat) : Nat :=
  Nat.pow 2 bits

/-- The value of a numeral of an unsigned word of `bits` bits: digits after at most a plus sign. -/
def word? (base bits : Nat) (s : List Char) : Option Nat :=
  let digits := match s with
    | '+' :: rest => rest
    | _ => s
  (digits? base digits).filter (· < wordCount bits)

/-- The value of a decimal numeral of a signed word of `bits` bits: digits after at most a sign. -/
def int? (bits : Nat) (s : List Char) : Option Int :=
  match s with
  | '-' :: rest => ((digits? 10 rest).filter (· ≤ wordCount (bits - 1))).map fun n => -(n : Int)
  | _ => (word? 10 (bits - 1) s).map fun n => (n : Int)

/-- The two lower-case hexadecimal digits of a byte. -/
def hexByte (b : UInt8) : List Char :=
  [Nat.digitChar (b.toNat / 16), Nat.digitChar (b.toNat % 16)]

/-- The bytes of an even run of hexadecimal digits in either case. -/
def hexBytes? : List Char → Option (List UInt8)
  | [] => some []
  | [_] => none
  | a :: b :: s => do
    let hi ← hexValue? a
    let lo ← hexValue? b
    let rest ← hexBytes? s
    return UInt8.ofNat (16 * hi + lo) :: rest

private theorem foldr_pairUp (base : Nat) (digits : List Nat) :
    (pairUp base digits).foldr (fun a n => a + base * base * n) 0
      = digits.foldr (fun a n => a + base * n) 0 := by
  fun_induction pairUp base digits with
  | case1 a b digits ih =>
    simp only [List.foldr_cons, ih, Nat.mul_add, Nat.add_assoc]
    rw [Nat.mul_assoc]
  | case2 digits h =>
    match digits, h with
    | [], _ => rfl
    | [_], _ => simp
    | a :: b :: rest, h => exact absurd rfl (h a b rest)

/-- The first of some digits counts once, and the others count as often as the base says. -/
theorem ofDigits_eq_foldr (base : Nat) (digits : List Nat) :
    ofDigits base digits = digits.foldr (fun a n => a + base * n) 0 := by
  fun_induction ofDigits base digits with
  | case1 => rfl
  | case2 => simp
  | case3 base a b digits ih =>
    rw [ih]
    exact foldr_pairUp base (a :: b :: digits)

/-- Reading a code point takes nothing off behind it. -/
theorem length_codePoint?_le {count : Nat} {s rest : List Char} {c : Char}
    (h : codePoint? count s = some (c, rest)) : rest.length ≤ s.length := by
  unfold codePoint? at h
  split at h
  · next n _ =>
    split at h
    · obtain ⟨-, rfl⟩ : Char.ofNat n = c ∧ s.drop count = rest := by simpa using h
      simp
    · simp at h
  · simp at h

theorem digits?_append {base m : Nat} {s : List Char} (c : Char) (h : digits? base s = some m) :
    digits? base (s ++ [c]) = (digit? base c).map (base * m + ·) := by
  unfold digits? at h ⊢
  split at h
  · simp at h
  · obtain ⟨digits, hs, rfl⟩ := Option.map_eq_some_iff.1 h
    cases hc : digit? base c with
    | none => simp [hs, hc]
    | some d => simp [hs, hc, ofDigits_eq_foldr, Nat.add_comm]

private theorem digit?_digitChar {base n : Nat} (hb : base ≤ 16) (h : n < base) :
    digit? base n.digitChar = some n := by
  have all : ∀ k < 16, hexValue? (Nat.digitChar k) = some k := by decide
  simp [digit?, all n (by omega), h]

theorem digits?_toDigits {base : Nat} (hlo : 2 ≤ base) (hhi : base ≤ 16) (n : Nat) :
    digits? base (base.toDigits n) = some n := by
  induction n using Nat.strongRecOn with
  | _ n ih =>
    rw [Nat.toDigits_eq_if hlo]
    split
    · next h => simp [digits?, digit?_digitChar hhi h, ofDigits]
    · next h =>
      have hlt : n / base < n := Nat.div_lt_self (by omega) hlo
      rw [digits?_append _ (ih _ hlt), digit?_digitChar hhi (Nat.mod_lt _ (by omega))]
      simp [Nat.div_add_mod]

end SupplicantWatch.Text
