import SupplicantWatch.Json.Document
import SupplicantWatch.Text.Alphanumeric
import SupplicantWatch.Text.Digit
import SupplicantWatch.Text.Gap

/-!
# The relaxed dialect of JSON

A dialect for documents that people write. It has comments, names without quotes, texts in single
quotes that may go on to further lines, more ways to write numbers, and a comma at the end.
-/

namespace SupplicantWatch.Json

/-! ### Texts and names -/

/-- The letters of the escapes of one letter that stand for another character. -/
def relaxedEscapes : List (Char × Char) :=
  [('b', '\x08'), ('f', '\x0c'), ('n', '\n'), ('r', '\r'), ('t', '\t'), ('v', '\x0b'),
   ('0', '\x00')]

/-- What an escape stands for, without its backslash, and the rest. The end of a line stands for
nothing, and most other characters for themselves. -/
def relaxedEscape? : List Char → Option (List Char × List Char)
  | [] => none
  | '\r' :: '\n' :: s => some ([], s)
  | c :: s =>
    if Text.isLineEnd c then some ([], s)
    else if c = 'x' then (Text.codePoint? 2 s).map fun (c, rest) => ([c], rest)
    else if c = 'u' then (units? s).map fun (c, rest) => ([c], rest)
    else match relaxedEscapes.lookup c with
      | some c => some ([c], s)
      | none => if Char.isDigit c then none else some ([c], s)

def relaxedString? (quote : Char) : (bound : Nat) → List Char → Option (List Char × List Char)
  | 0, _ => none
  | bound + 1, s =>
    match s with
    | [] => none
    | c :: s =>
      if c = quote then some ([], s)
      else if c = '\\' then do
        let (text, s) ← relaxedEscape? s
        let (front, rest) ← relaxedString? quote bound s
        return (text ++ front, rest)
      else if Text.isLineEnd c then none
      else (relaxedString? quote bound s).map fun (front, rest) => (c :: front, rest)

def relaxedQuoted? (bound : Nat) : List Char → Option (List Char × List Char)
  | '\x22' :: s => relaxedString? '\x22' bound s
  | '\x27' :: s => relaxedString? '\x27' bound s
  | _ => none

/-- Whether the character may stand in a name without quotes. -/
def isNameChar (c : Char) : Bool :=
  c = '$' || c = '_' || Text.isAlphanumeric c

def relaxedName? (bound : Nat) (s : List Char) : Option (List Char × List Char) :=
  match relaxedQuoted? bound s with
  | some (name, rest) => some (name, rest)
  | none => if s.head?.any Text.isDecimalDigit then none else Text.some? isNameChar s

/-! ### Numbers -/

/-- The value of hexadecimal digits of a word of 32 bits that a text begins with, and the rest. -/
def hexNumber? (s : List Char) : Option (Setting × List Char) := do
  let (digits, rest) ← Text.some? (Text.hexValue? · |>.isSome) s
  let n ← Text.word? 16 32 digits
  return (.int n, rest)

/-- The decimal number with the given sign that a text begins with, and the rest. A point may stand
at either end of the digits. -/
def decimalNumber? (sign s : List Char) : Option (Setting × List Char) := do
  let whole := s.takeWhile Char.isDigit
  let s := s.dropWhile Char.isDigit
  let (fraction, s) := match s with
    | '.' :: s => ('.' :: s.takeWhile Char.isDigit, s.dropWhile Char.isDigit)
    | s => ([], s)
  if (whole.head? = some '0' ∧ whole ≠ ['0']) ∨ (whole = [] ∧ fraction.length < 2) then none
  let (exponent, s) := (exponent? s).getD ([], s)
  let text := sign ++ whole ++ fraction ++ exponent
  if fraction = [] ∧ exponent = [] then return (.int (← Text.int? 64 text), s)
  else match ← Binary64.ofText? text with
    | .infinite _ => none
    | x => return (.float x, s)

def relaxedNumber? (s : List Char) : Option (Setting × List Char) :=
  let (sign, digits) := match s with
    | '-' :: s => (['-'], s)
    | '+' :: s => (['+'], s)
    | s => ([], s)
  match List.isPrefixOf? "Infinity".toList digits, List.isPrefixOf? "NaN".toList digits with
  | some rest, _ => some (.float (.infinite (sign = ['-'])), rest)
  | none, some rest => some (.float .nan, rest)
  | none, none =>
    match s with
    | '0' :: 'x' :: s | '0' :: 'X' :: s => hexNumber? s
    | _ => decimalNumber? sign digits

/-! ### Documents -/

def relaxedScalar? (bound : Nat) (s : List Char) : Option (Setting × List Char) :=
  match relaxedQuoted? bound s with
  | some (text, rest) => some (.string (String.ofList text), rest)
  | none => (word? s).or (relaxedNumber? s)

/-- The way to write documents that suits people. -/
def relaxed : Dialect :=
  ⟨Text.skipGap, relaxedScalar?, relaxedName?, true, 1000⟩

end SupplicantWatch.Json
