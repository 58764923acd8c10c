import SupplicantWatch.Binary64
import SupplicantWatch.Setting.Basic
import SupplicantWatch.Text.Alphanumeric
import SupplicantWatch.Text.Digit
import SupplicantWatch.Text.Gap
import SupplicantWatch.Text.Scan

/-!
# Reading RON documents

A document is a structure, with or without a name, or a map whose keys are texts. Where values nest,
a bound on the text left ends the recursion. Main statement: `length_escape?_lt`, an escape is never
empty.
-/

namespace SupplicantWatch.Ron

open Text (skipGap)

/-! ### Texts -/

def escapeLetters : List (Char × Char) :=
  [('n', '\n'), ('t', '\t'), ('r', '\r'), ('0', '\x00'), ('\\', '\\'), ('\x22', '\x22'),
   ('\x27', '\x27')]

/-- The character whose code point is written in at most six hexadecimal digits within braces. -/
def bracedCodePoint? (s : List Char) : Option (Char × List Char) := do
  let (digits, rest) ← Text.cut? '\x7d' (← List.isPrefixOf? ['\x7b'] s)
  let n ← (Text.digits? 16 digits).filter fun n => n.isValidChar && digits.length ≤ 6
  return (Char.ofNat n, rest)

def escape? : List Char → Option (Char × List Char)
  | [] => none
  | c :: s =>
    if c = 'x' then Text.codePoint? 2 s
    else if c = 'u' then bracedCodePoint? s
    else (escapeLetters.lookup c).map (·, s)

private theorem length_isPrefixOf?_singleton_lt {a : Char} {s rest : List Char}
    (h : List.isPrefixOf? [a] s = some rest) : rest.length < s.length := by
  cases s with
  | nil => cases h
  | cons c s =>
    change (if a == c then some s else none) = some rest at h
    split at h
    · cases h
      exact Nat.lt_succ_self _
    · cases h

private theorem length_bracedCodePoint?_lt {s rest : List Char} {c : Char}
    (h : bracedCodePoint? s = some (c, rest)) : rest.length < s.length := by
  simp only [bracedCodePoint?, Option.bind_eq_bind, Option.bind_eq_some_iff] at h
  obtain ⟨s', hs, ⟨digits, behind⟩, hcut, n, -, h⟩ := h
  obtain ⟨-, rfl⟩ : Char.ofNat n = c ∧ behind = rest := by simpa using h
  refine Nat.lt_trans ?_ (length_isPrefixOf?_singleton_lt hs)
  rw [(Text.eq_of_cut? hcut).1, List.length_append, List.length_cons]
  omega

theorem length_escape?_lt {s rest : List Char} {c : Char} (h : escape? s = some (c, rest)) :
    rest.length < s.length := by
  cases s with
  | nil => simp [escape?] at h
  | cons a s =>
    simp only [escape?] at h
    split at h
    · exact Nat.lt_succ_of_le (Text.length_codePoint?_le h)
    split at h
    · exact Nat.lt_succ_of_lt (length_bracedCodePoint?_lt h)
    · obtain ⟨c', -, he⟩ := Option.map_eq_some_iff.1 h
      obtain ⟨-, rfl⟩ : c' = c ∧ s = rest := by simpa using he
      simp

def string? (quote : Char) (s : List Char) : Option (List Char × List Char) :=
  match s with
  | [] => none
  | c :: s =>
    if c = quote then some ([], s)
    else if c = '\\' then
      match _h : escape? s with
      | none => none
      | some (c, rest) => (string? quote rest).map fun (front, rest) => (c :: front, rest)
    else (string? quote s).map fun (front, rest) => (c :: front, rest)
termination_by s.length
decreasing_by
  · exact Nat.lt_succ_of_lt (length_escape?_lt _h)
  · exact Nat.lt_succ_self _

/-- The raw text behind its mark, closed by a quote and as many number signs as opened it, and the
rest. -/
def raw? (s : List Char) : Option (List Char × List Char) := do
  let signs := s.takeWhile (· = '#')
  let s ← List.isPrefixOf? ['\x22'] (s.dropWhile (· = '#'))
  Text.find? ('\x22' :: signs) s

def quoted? : List Char → Option (List Char × List Char)
  | '\x22' :: s => string? '\x22' s
  | '\x27' :: s => (string? '\x27' s).filter (·.1.length = 1)
  | 'r' :: '\x22' :: s => raw? ('\x22' :: s)
  | 'r' :: '#' :: '\x22' :: s => raw? ('#' :: '\x22' :: s)
  | 'r' :: '#' :: '#' :: s => raw? ('#' :: '#' :: s)
  | _ => none

/-! ### Names and numbers -/

def name? (s : List Char) : Option (String × List Char) := do
  let (name, rest) ← Text.some? (fun c => c = '_' || Text.isAlphanumeric c) s
  if name.head?.any Text.isDecimalDigit then none else return (String.ofList name, rest)

def nameValues : List (String × Setting) :=
  [("true", .bool true), ("false", .bool false), ("None", .unset),
   ("inf", .float (.infinite false)), ("NaN", .float .nan)]

/-- The whole number that digits behind the mark of a base stand for. -/
def based? : List Char → Option Nat
  | '0' :: 'x' :: s => Text.digits? 16 s
  | '0' :: 'b' :: s => Text.digits? 2 s
  | '0' :: 'o' :: s => Text.digits? 8 s
  | s => Text.digits? 10 s

def number? (s : List Char) : Option (Setting × List Char) := do
  let (word, rest) ← Text.some? (fun c => c ∈ ['+', '-', '.', '_'] || c.isAlphanum) s
  let (negative, digits) := Binary64.sign (word.filter (· != '_'))
  match based? digits with
  | some n =>
    let n : Int := if negative then -n else n
    if -Text.wordCount 63 ≤ n ∧ n < Text.wordCount 63 then return (.int n, rest) else none
  | none =>
    if digits = "inf".toList then return (.float (.infinite negative), rest)
    else return (.float (← Binary64.unsigned? negative digits), rest)

/-! ### Values -/

/-- The key and the rest of a field whose key is a name. -/
def fieldName? (s : List Char) : Option (String × List Char) := do
  let (name, rest) ← name? s
  return (name, ← List.isPrefixOf? [':'] (skipGap rest))

/-- The key and the rest of a field whose key is a text. -/
def textKey? (s : List Char) : Option (String × List Char) := do
  let (key, rest) ← quoted? s
  return (String.ofList key, ← List.isPrefixOf? [':'] (skipGap rest))

mutual

def value? : (bound : Nat) → List Char → Option (Setting × List Char)
  | 0, _ => none
  | bound + 1, s =>
    match quoted? s with
    | some (text, rest) => some (.string (String.ofList text), rest)
    | none =>
      match s with
      | '[' :: s =>
        (items? bound ']' (skipGap s)).map fun (items, rest) => (.list items, rest)
      | '\x7b' :: s =>
        (fields? bound textKey? '\x7d' [] (skipGap s)).map fun (fields, rest) =>
          (.table fields, rest)
      | '(' :: s => structure? bound (skipGap s)
      | s =>
        match name? s with
        | none => number? s
        | some (name, rest) =>
          match nameValues.lookup name, skipGap rest with
          | some value, _ => some (value, rest)
          | none, '(' :: s =>
            if name = "Some" then do
              let (value, rest) ← value? bound (skipGap s)
              match skipGap rest with
              | ',' :: rest => return (value, ← List.isPrefixOf? [')'] (skipGap rest))
              | rest => return (value, ← List.isPrefixOf? [')'] rest)
            else structure? bound (skipGap s)
          | none, _ => some (.unset, rest)

/-- The structure behind its opening bracket, and the rest: with named fields, with items, or with
nothing. -/
def structure? : (bound : Nat) → List Char → Option (Setting × List Char)
  | 0, _ => none
  | bound + 1, s =>
    if s.head? = some ')' then some (.unset, s.drop 1)
    else if (fieldName? s).isSome then
      (fields? bound fieldName? ')' [] s).map fun (fields, rest) => (.table fields, rest)
    else (items? bound ')' s).map fun (items, rest) => (.list items, rest)

def items? : (bound : Nat) → (close : Char) → List Char → Option (List Setting × List Char)
  | 0, _, _ => none
  | bound + 1, close, s =>
    if s.head? = some close then some ([], s.drop 1)
    else match value? bound s with
      | none => none
      | some (item, rest) =>
        match skipGap rest with
        | ',' :: rest =>
          (items? bound close (skipGap rest)).map fun (items, rest) => (item :: items, rest)
        | rest => if rest.head? = some close then some ([item], rest.drop 1) else none

/-- The fields up to the closing bracket, behind those read before, and the rest. A later field
takes the place of an earlier one with its key. -/
def fields? : (bound : Nat) → (key? : List Char → Option (String × List Char)) → (close : Char) →
    List (String × Setting) → List Char → Option (List (String × Setting) × List Char)
  | 0, _, _, _, _ => none
  | bound + 1, key?, close, fields, s =>
    if s.head? = some close then some (fields, s.drop 1)
    else match key? s with
      | none => none
      | some (key, rest) =>
        match value? bound (skipGap rest) with
        | none => none
        | some (value, rest) =>
          let fields := Setting.updateEntries key (fun _ => value) fields
          match skipGap rest with
          | ',' :: rest => fields? bound key? close fields (skipGap rest)
          | rest => if rest.head? = some close then some (fields, rest.drop 1) else none

end

def document? (s : List Char) : Option Setting :=
  match value? (3 * s.length + 3) (skipGap s) with
  | some (.table fields, rest) => if (skipGap rest).isEmpty then some (.table fields) else none
  | _ => none

end SupplicantWatch.Ron
