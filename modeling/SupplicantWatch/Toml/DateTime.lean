import SupplicantWatch.Text.Numeral

/-!
# Dates and times of TOML

A date, a time of day, or a date with a time and perhaps its offset. Settings keep them as text in
one plain spelling.
-/

namespace SupplicantWatch.Toml

/-- The number in the digits that a text begins with, of which there are exactly `count`, and the
rest. -/
def number? (count : Nat) (s : List Char) : Option (Nat × List Char) :=
  let digits := s.takeWhile Char.isDigit
  if digits.length = count then
    (Text.digits? 10 digits).map fun n => (n, s.dropWhile Char.isDigit)
  else none

/-- The digits of a number, with zeros in front up to the given count. -/
def padded (count n : Nat) : List Char :=
  let digits := Nat.toDigits 10 n
  List.replicate (count - digits.length) '0' ++ digits

/-- The number in exactly `count` digits with a mark behind them, and the rest. -/
def numberBefore? (mark : Char) (count : Nat) (s : List Char) : Option (Nat × List Char) :=
  match number? count s with
  | some (n, c :: rest) => if c = mark then some (n, rest) else none
  | _ => none

/-! ### Dates -/

structure Date where
  year : Nat
  month : Nat
  day : Nat
deriving DecidableEq, Repr

def daysIn (year month : Nat) : Nat :=
  if month = 2 then
    if year % 4 = 0 ∧ (year % 100 ≠ 0 ∨ year % 400 = 0) then 29 else 28
  else if month ∈ [4, 6, 9, 11] then 30
  else 31

def Date.exists (d : Date) : Bool :=
  1 ≤ d.month && d.month ≤ 12 && 1 ≤ d.day && d.day ≤ daysIn d.year d.month

def date? (s : List Char) : Option (Date × List Char) := do
  let (year, s) ← numberBefore? '-' 4 s
  let (month, s) ← numberBefore? '-' 2 s
  let (day, s) ← number? 2 s
  if (Date.mk year month day).exists then some (⟨year, month, day⟩, s) else none

def Date.toChars (d : Date) : List Char :=
  padded 4 d.year ++ '-' :: (padded 2 d.month ++ '-' :: padded 2 d.day)

/-! ### Times -/

/-- The digits of a fraction of a second up to the ninth, without zeros behind them. -/
def fractionChars (digits : List Char) : List Char :=
  match ((digits.take 9).reverse.dropWhile (· == '0')).reverse with
  | [] => ['0']
  | digits => digits

/-- The seconds that a text begins with in plain spelling, with the colon before them and their
fraction, and the rest. They may be missing. -/
def seconds? (s : List Char) : Option (List Char × List Char) :=
  match s with
  | ':' :: s => do
    let (second, s) ← number? 2 s
    if 60 < second then none
    let text := ':' :: padded 2 second
    match s with
    | '.' :: s =>
      let digits := s.takeWhile Char.isDigit
      if digits = [] then none
      else some (text ++ '.' :: fractionChars digits, s.dropWhile Char.isDigit)
    | s => some (text, s)
  | s => some ([], s)

/-- The time of day that a text begins with in plain spelling, and the rest. -/
def time? (s : List Char) : Option (List Char × List Char) := do
  let (hour, s) ← numberBefore? ':' 2 s
  let (minute, s) ← number? 2 s
  let (seconds, s) ← seconds? s
  if hour ≤ 23 ∧ minute ≤ 59 then
    some (padded 2 hour ++ ':' :: (padded 2 minute ++ seconds), s)
  else none

/-- The offset that a whole text writes in plain spelling. It may be missing, and one of zero is
positive. -/
def offset? (s : List Char) : Option (List Char) :=
  match s with
  | [] => some []
  | sign :: s =>
    if sign = 'Z' ∨ sign = 'z' then if s = [] then some ['Z'] else none
    else if sign = '+' ∨ sign = '-' then
      match numberBefore? ':' 2 s with
      | none => none
      | some (hours, s) =>
        match number? 2 s with
        | some (minutes, []) =>
          let sign := if hours = 0 ∧ minutes = 0 then '+' else sign
          if hours ≤ 23 ∧ minutes ≤ 59 then
            some (sign :: (padded 2 hours ++ ':' :: padded 2 minutes))
          else none
        | _ => none
    else none

/-! ### Both -/

def timeMarks : List Char :=
  ['T', 't', ' ']

/-- The date, the time, or the date with a time that a whole text writes, in plain spelling. -/
def dateTime? (s : List Char) : Option (List Char) :=
  match date? s with
  | some (date, []) => some date.toChars
  | some (date, mark :: s) =>
    if mark ∈ timeMarks then do
      let (time, s) ← time? s
      return date.toChars ++ 'T' :: (time ++ (← offset? s))
    else none
  | none =>
    match time? s with
    | some (time, []) => some time
    | _ => none

end SupplicantWatch.Toml
