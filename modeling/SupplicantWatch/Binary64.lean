import SupplicantWatch.Text.Numeral

/-!
# Binary floating-point numbers

Numbers of 64 bits, taken apart into a sign, a whole number and a power of two. They are read from
decimal text, written with the fewest digits that read back, and rounded to whole numbers, all of it
by exact arithmetic on whole numbers.
-/

namespace SupplicantWatch

inductive Binary64 where
  | nan
  | infinite (negative : Bool)
  /-- The number `m * 2 ^ q` or its negative. -/
  | finite (negative : Bool) (m : Nat) (q : Int)
deriving DecidableEq, Repr

namespace Binary64

/-- The place of the first bit of a mantissa, which is not stored: `2 ^ 52`. -/
def leadingBit : Nat :=
  0x10000000000000

/-- The whole number nearest to a ratio, and of two the even one. -/
def divNearest (n d : Nat) : Nat :=
  match compare (2 * (n % d)) d with
  | .lt => n / d
  | .eq => n / d + n / d % 2
  | .gt => n / d + 1

def comparePower (n d : Nat) (e : Int) : Ordering :=
  compare (n * Nat.pow 2 (-e).toNat) (d * Nat.pow 2 e.toNat)

/-- The number nearest to a ratio of positive numbers, and of two the one with the even mantissa. -/
def ofRatio (negative : Bool) (n d : Nat) : Binary64 :=
  let e : Int := n.log2 - d.log2
  -- The difference of the logarithms is the exponent or one above it.
  let e := if comparePower n d e = .lt then e - 1 else e
  let q := max (e - 52) (-1074)
  let m := divNearest (n * Nat.pow 2 (-q).toNat) (d * Nat.pow 2 q.toNat)
  -- Rounding up may carry into one more bit.
  let (m, q) := if m = 2 * leadingBit then (leadingBit, q + 1) else (m, q)
  if q > 971 then infinite negative else finite negative m q

/-- The number nearest to `n * 10 ^ e`. An exponent at which only zero or an infinity can be nearest
is not worked out: `n` has more than `n.log2 / 4` digits, and at most `n.log2 / 3 + 1`. -/
def ofDecimal (negative : Bool) (n : Nat) (e : Int) : Binary64 :=
  if n = 0 ∨ e + n.log2 / 3 < -330 then finite negative 0 (-1074)
  else if e + n.log2 / 4 > 310 then infinite negative
  else ofRatio negative (n * Nat.pow 10 e.toNat) (Nat.pow 10 (-e).toNat)

/-! ### Reading -/

/-- Takes at most one sign off a text and tells whether it is a minus. -/
def sign : List Char → Bool × List Char
  | '-' :: s => (true, s)
  | '+' :: s => (false, s)
  | s => (false, s)

/-- The exponent at the end of a numeral, zero if there is none. -/
def exponent? : List Char → Option Int
  | [] => some 0
  | c :: s =>
    if c = 'e' ∨ c = 'E' then
      let (negative, digits) := sign s
      (Text.digits? 10 digits).map fun n => if negative then -(n : Int) else n
    else none

/-- The number that a decimal numeral without a sign stands for: digits, at most one point before,
among or behind them, and an exponent if there is one. -/
def unsigned? (negative : Bool) (s : List Char) : Option Binary64 := do
  let whole := s.takeWhile Char.isDigit
  let (fraction, rest) := match s.dropWhile Char.isDigit with
    | '.' :: s => (s.takeWhile Char.isDigit, s.dropWhile Char.isDigit)
    | s => ([], s)
  let n ← Text.digits? 10 (whole ++ fraction)
  let e ← exponent? rest
  return ofDecimal negative n (e - fraction.length)

/-- The number that a text stands for: a decimal numeral, or the word for an infinity or for no
number in any case, after at most one sign. -/
def ofText? (s : List Char) : Option Binary64 :=
  let (negative, s) := sign s
  let word := String.ofList (s.map Char.toLower)
  if word = "inf" ∨ word = "infinity" then some (infinite negative)
  else if word = "nan" then some nan
  else unsigned? negative s

/-! ### Writing -/

def compareScaled (a : Nat) (i : Int) (n : Nat) (j : Int) : Ordering :=
  compare (a * Nat.pow 10 i.toNat * Nat.pow 2 (-j).toNat)
    (n * Nat.pow 2 j.toNat * Nat.pow 10 (-i).toNat)

/-- Whether `d * 10 ^ e` lies among the reals that round to `m * 2 ^ q`. They reach halfway to the
neighbours, of which the lower is nearer at a power of two, and the ends are among them if `m` is
even. -/
def readsBack (m : Nat) (q : Int) (d : Nat) (e : Int) : Bool :=
  let lo := if m = leadingBit ∧ q > -1074 then 4 * m - 1 else 4 * m - 2
  let above := compareScaled d e lo (q - 2)
  let below := compareScaled d e (4 * m + 2) (q - 2)
  if m % 2 = 0 then above != .lt && below != .gt else above == .gt && below == .lt

/-- The greatest `d` for which `d * 10 ^ e` is at most `m * 2 ^ q`. -/
def floorOn (m : Nat) (q e : Int) : Nat :=
  (m * Nat.pow 2 q.toNat * Nat.pow 10 (-e).toNat)
    / (Nat.pow 10 e.toNat * Nat.pow 2 (-q).toNat)

/-- The multiple of `10 ^ e` that reads back as `m * 2 ^ q`, if there is one: of two, the nearer,
and the greater if both are as near. -/
def onGrid? (m : Nat) (q e : Int) : Option Nat :=
  let d := floorOn m q e
  -- No other multiple can be nearer than the two around the number.
  match readsBack m q d e, readsBack m q (d + 1) e with
  | true, true =>
    some (if compareScaled (2 * d + 1) e (2 * m) q = .gt then d else d + 1)
  | true, false => some d
  | false, true => some (d + 1)
  | false, false => none

/-- The number `m * 2 ^ q` as `d * 10 ^ e` with the fewest digits that read back. -/
def shortest (m : Nat) (q : Int) : Nat × Int :=
  let hit := (List.range 660).findSome? fun (i : Nat) =>
    let e : Int := 309 - (i : Int)
    (onGrid? m q e).map fun d => (d, e)
  hit.getD (m * Nat.pow 2 q.toNat * Nat.pow 5 (-q).toNat, min q 0)

def positional (d : Nat) (e : Int) : List Char :=
  let digits := Nat.toDigits 10 d
  if 0 ≤ e then digits ++ List.replicate e.toNat '0'
  else
    let places := (-e).toNat
    let digits := List.replicate (places + 1 - digits.length) '0' ++ digits
    digits.take (digits.length - places) ++ '.' :: digits.drop (digits.length - places)

/-- The text of a number: the fewest digits that read back, without an exponent. -/
def toChars : Binary64 → List Char
  | nan => "NaN".toList
  | infinite negative => if negative then "-inf".toList else "inf".toList
  | finite negative m q =>
    let text := if m = 0 then ['0'] else
      let (d, e) := shortest m q
      positional d e
    if negative then '-' :: text else text

/-! ### Rounding -/

/-- The nearest whole number below `2 ^ bits`, a half going up; no number counts as zero. -/
def toWord (bits : Nat) : Binary64 → Nat
  | nan => 0
  | infinite negative => if negative then 0 else Text.wordCount bits - 1
  | finite negative m q =>
    if negative then 0
    else
      let half := Nat.pow 2 (-q).toNat
      min ((2 * (m * Nat.pow 2 q.toNat) + half) / (2 * half)) (Text.wordCount bits - 1)

/-- Whether a number differs from zero, as no number does. -/
def isNonzero : Binary64 → Bool
  | finite _ m _ => m != 0
  | _ => true

theorem toWord_lt (bits : Nat) (x : Binary64) : x.toWord bits < Text.wordCount bits := by
  have hpos : 0 < Text.wordCount bits := Nat.two_pow_pos bits
  cases x with
  | nan => exact hpos
  | infinite negative =>
    cases negative
    · simp only [toWord, Bool.false_eq_true, if_false]
      omega
    · simp [toWord, hpos]
  | finite negative m q =>
    cases negative
    · simp only [toWord, Bool.false_eq_true, if_false]
      omega
    · simp [toWord, hpos]

end Binary64

end SupplicantWatch
