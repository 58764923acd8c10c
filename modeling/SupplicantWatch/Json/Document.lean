import SupplicantWatch.Json
import SupplicantWatch.Setting.Basic
import SupplicantWatch.Text.Scan

/-!
# Reading JSON documents

A document is one object. How values nest is the same in every dialect, and a bound on the text left
ends the recursion. Main statement: `letter?_escapeChar`, the letter of a short escape that is
written is read back.
-/

namespace SupplicantWatch.Json

def skipSpace (s : List Char) : List Char :=
  s.dropWhile (· ∈ [' ', '\t', '\n', '\r'])

/-! ### Strings -/

def letter? (letter : Char) : Option Char :=
  if letter = '/' then some '/' else (shortEscapes.find? (·.2 = letter)).map (·.1)

/-- The 16-bit unit in the four hexadecimal digits that a text begins with, and the rest. -/
def unit? (s : List Char) : Option (Nat × List Char) :=
  if (s.take 4).length = 4 then (Text.digits? 16 (s.take 4)).map fun n => (n, s.drop 4) else none

/-- The character in the units of an escape, of which the text behind the first `u` is given, and
the rest. A high surrogate has to be followed by a low one. -/
def units? (s : List Char) : Option (Char × List Char) := do
  let (n, s) ← unit? s
  if n.isValidChar then return (Char.ofNat n, s)
  let (m, s) ← unit? (← List.isPrefixOf? ['\\', 'u'] s)
  if n < 0xdc00 ∧ 0xdc00 ≤ m ∧ m < 0xe000 then
    return (Char.ofNat (0x10000 + 0x400 * (n - 0xd800) + (m - 0xdc00)), s)
  else none

/-- The string up to the quote that closes it, of which there are fewer characters than the bound
says, and the rest. -/
def string? : (bound : Nat) → List Char → Option (List Char × List Char)
  | 0, _ => none
  | bound + 1, s =>
    match s with
    | [] => none
    | c :: s => do
      if c = '\x22' then return ([], s)
      else if c.toNat < 0x20 then none
      else
        let (c, s) ← if c ≠ '\\' then some (c, s) else
          match s with
          | 'u' :: s => units? s
          | c :: s => (letter? c).map (·, s)
          | [] => none
        let (front, rest) ← string? bound s
        return (c :: front, rest)

/-! ### Numbers -/

def digitsAt? (s : List Char) : Option (List Char × List Char) :=
  Text.some? Char.isDigit s

/-- The fraction that a text begins with, with its point, and the rest. It may be missing. -/
def fraction? : List Char → Option (List Char × List Char)
  | '.' :: s => (digitsAt? s).map fun (digits, rest) => ('.' :: digits, rest)
  | s => some ([], s)

/-- The exponent that a text begins with, with its letter, and the rest. It may be missing. -/
def exponent? (s : List Char) : Option (List Char × List Char) :=
  match s with
  | [] => some ([], [])
  | c :: s' =>
    if c = 'e' ∨ c = 'E' then
      let (sign, s') := match s' with
        | '-' :: s' => (['-'], s')
        | '+' :: s' => ([], s')
        | s' => ([], s')
      (digitsAt? s').map fun (digits, rest) => ('e' :: (sign ++ digits), rest)
    else some ([], s)

/-- The number that a text begins with, and the rest. A whole number that does not fit a signed word
of 64 bits is a floating-point number, and so is a negative zero. -/
def number? (s : List Char) : Option (Setting × List Char) := do
  let (minus, s) := match s with
    | '-' :: s => (['-'], s)
    | s => ([], s)
  let (whole, s) ← digitsAt? s
  if whole.head? = some '0' ∧ whole ≠ ['0'] then none
  let (fraction, s) ← fraction? s
  let (exponent, s) ← exponent? s
  let isZero := minus = ['-'] ∧ whole = ['0']
  match if fraction = [] ∧ exponent = [] ∧ ¬isZero then Text.int? 64 (minus ++ whole) else none with
  | some n => return (.int n, s)
  | none =>
    match ← Binary64.ofText? (minus ++ whole ++ fraction ++ exponent) with
    | .infinite _ => none
    | x => return (.float x, s)

/-! ### Values -/

def words : List (List Char × Setting) :=
  [("null".toList, .unset), ("true".toList, .bool true), ("false".toList, .bool false)]

def word? (s : List Char) : Option (Setting × List Char) :=
  words.findSome? fun (word, value) => (List.isPrefixOf? word s).map (value, ·)

/-- A way to write documents: what may stand between the marks, how the values that do not nest and
the names of fields are read within a bound, whether a comma may stand behind the last item or
field, and how deep values may nest. -/
structure Dialect where
  skipGap : List Char → List Char
  scalar? : (bound : Nat) → List Char → Option (Setting × List Char)
  name? : (bound : Nat) → List Char → Option (List Char × List Char)
  allowsLastComma : Bool
  depthLimit : Nat

namespace Dialect

variable (d : Dialect)

mutual

/-- The value that a text begins with, and the rest. Values nest at most as deep as given. -/
def value? : (bound depth : Nat) → List Char → Option (Setting × List Char)
  | 0, _, _ => none
  | bound + 1, depth, s =>
    match s with
    | '[' :: s =>
      if depth = 0 then none
      else match d.skipGap s with
        | ']' :: rest => some (.list [], rest)
        | s => (items? bound (depth - 1) s).map fun (items, rest) => (.list items, rest)
    | '\x7b' :: s =>
      if depth = 0 then none
      else match d.skipGap s with
        | '\x7d' :: rest => some (.table [], rest)
        | s => (fields? bound (depth - 1) [] s).map fun (fields, rest) => (.table fields, rest)
    | s => d.scalar? bound s

/-- The items of an array that has at least one more, up to its closing bracket, and the rest. -/
def items? : (bound depth : Nat) → List Char → Option (List Setting × List Char)
  | 0, _, _ => none
  | bound + 1, depth, s =>
    match value? bound depth s with
    | none => none
    | some (item, rest) =>
      match d.skipGap rest with
      | ']' :: rest => some ([item], rest)
      | ',' :: rest =>
        match d.allowsLastComma, d.skipGap rest with
        | true, ']' :: rest => some ([item], rest)
        | _, s => (items? bound depth s).map fun (items, rest) => (item :: items, rest)
      | _ => none

/-- The fields of an object that has at least one more, behind those read before, up to its closing
brace, and the rest. A later field takes the place of an earlier one of the same name. -/
def fields? : (bound depth : Nat) → List (String × Setting) → List Char →
    Option (List (String × Setting) × List Char)
  | 0, _, _, _ => none
  | bound + 1, depth, fields, s =>
    match d.name? bound s with
    | none => none
    | some (name, rest) =>
      match d.skipGap rest with
      | ':' :: rest =>
        match value? bound depth (d.skipGap rest) with
        | none => none
        | some (value, rest) =>
          let fields := Setting.updateEntries (String.ofList name) (fun _ => value) fields
          match d.skipGap rest with
          | '\x7d' :: rest => some (fields, rest)
          | ',' :: rest =>
            match d.allowsLastComma, d.skipGap rest with
            | true, '\x7d' :: rest => some (fields, rest)
            | _, s => fields? bound depth fields s
          | _ => none
      | _ => none

end

def document? (s : List Char) : Option Setting :=
  match d.value? (2 * s.length + 2) d.depthLimit (d.skipGap s) with
  | some (.table fields, rest) => if (d.skipGap rest).isEmpty then some (.table fields) else none
  | _ => none

end Dialect

def quoted? (bound : Nat) : List Char → Option (List Char × List Char)
  | '\x22' :: s => string? bound s
  | _ => none

/-- The value that does not nest and that a text begins with, and the rest. -/
def scalar? (bound : Nat) (s : List Char) : Option (Setting × List Char) :=
  match s.head? with
  | some '\x22' => (quoted? bound s).map fun (text, rest) => (.string (String.ofList text), rest)
  | _ => (word? s).or (number? s)

/-- The way to write documents that every reader of them understands. -/
def plain : Dialect :=
  ⟨skipSpace, scalar?, quoted?, false, 127⟩

/-- The letter of a short escape that is written is read back. -/
theorem letter?_escapeChar {c letter : Char} (h : escapeChar c = ['\\', letter]) :
    letter? letter = some c := by
  unfold escapeChar at h
  split at h
  · next c' letter' hf =>
    obtain rfl : letter' = letter := by simpa using h
    have hc := List.find?_some hf
    have hm := List.mem_of_find?_eq_some hf
    simp only [decide_eq_true_eq] at hc
    subst hc
    simp only [shortEscapes, List.mem_cons, Prod.mk.injEq, List.not_mem_nil, or_false] at hm
    rcases hm with ⟨rfl, rfl⟩ | ⟨rfl, rfl⟩ | ⟨rfl, rfl⟩ | ⟨rfl, rfl⟩ | ⟨rfl, rfl⟩ | ⟨rfl, rfl⟩
      | ⟨rfl, rfl⟩ <;> decide
  · split at h <;> simp at h

end SupplicantWatch.Json
