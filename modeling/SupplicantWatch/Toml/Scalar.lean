import SupplicantWatch.Setting.Basic
import SupplicantWatch.Text.Scan
import SupplicantWatch.Toml.DateTime

/-!
# Strings, numbers, truth values and dates of TOML

Readers for what a TOML document writes without nesting. Control characters have been refused
beforehand, and carriage returns stand only in line ends. Main statement: `length_escape?_lt`, an
escape is never empty.
-/

namespace SupplicantWatch.Toml

/-! ### Strings -/

def escapeLetters : List (Char × Char) :=
  [('b', '\x08'), ('t', '\t'), ('n', '\n'), ('f', '\x0c'), ('r', '\r'), ('e', '\x1b'),
   ('\x22', '\x22'), ('\\', '\\')]

def escape? : List Char → Option (Char × List Char)
  | [] => none
  | c :: s =>
    if c = 'x' then Text.codePoint? 2 s
    else if c = 'u' then Text.codePoint? 4 s
    else if c = 'U' then Text.codePoint? 8 s
    else (escapeLetters.lookup c).map (·, s)

theorem length_escape?_lt {s rest : List Char} {c : Char} (h : escape? s = some (c, rest)) :
    rest.length < s.length := by
  cases s with
  | nil => simp [escape?] at h
  | cons a s =>
    simp only [escape?] at h
    split at h
    · exact Nat.lt_succ_of_le (Text.length_codePoint?_le h)
    split at h
    · exact Nat.lt_succ_of_le (Text.length_codePoint?_le h)
    · split at h
      · exact Nat.lt_succ_of_le (Text.length_codePoint?_le h)
      · obtain ⟨_, -, he⟩ := Option.map_eq_some_iff.1 h
        obtain ⟨-, rfl⟩ : _ = c ∧ s = rest := by simpa using he
        simp

/-- Puts a character before what a reader has read. -/
def consTo (c : Char) (read : List Char × List Char) : List Char × List Char :=
  (c :: read.1, read.2)

/-- The string up to the double quote that closes it, and the rest. -/
def basic? (s : List Char) : Option (List Char × List Char) :=
  match s with
  | [] => none
  | c :: s =>
    if c = '\x22' then some ([], s)
    else if c = '\n' then none
    else if c = '\\' then
      match _h : escape? s with
      | none => none
      | some (c, rest) => (basic? rest).map (consTo c)
    else (basic? s).map (consTo c)
termination_by s.length
decreasing_by
  · have := length_escape?_lt _h
    simp only [List.length_cons]
    omega
  · simp

/-- The string up to the single quote that closes it, and the rest. -/
def literal? (s : List Char) : Option (List Char × List Char) :=
  match s.span (fun c => c != '\x27' && c != '\n') with
  | (front, '\x27' :: rest) => some (front, rest)
  | _ => none

/-- What follows three quotes that close a string. Up to two more belong to its text. -/
def closing (quote : Char) (s : List Char) : List Char × List Char :=
  let extra := ((s.takeWhile (· == quote)).take 2).length
  (s.take extra, s.drop extra)

/-- Whether the character is white space within a line or the first part of a line end. -/
def isGap (c : Char) : Bool :=
  c = ' ' || c = '\t' || c = '\r'

/-- What follows a line end that a backslash hides, with all white space behind it. -/
def hiddenLineEnd? (s : List Char) : Option (List Char) :=
  match s.dropWhile isGap with
  | '\n' :: rest => some (rest.dropWhile fun c => isGap c || c = '\n')
  | _ => none

private theorem length_hiddenLineEnd?_lt {s rest : List Char} (h : hiddenLineEnd? s = some rest) :
    rest.length < s.length := by
  unfold hiddenLineEnd? at h
  split at h
  · next tail hd =>
    obtain rfl := Option.some.inj h
    have h₁ : (s.dropWhile isGap).length ≤ s.length := (List.dropWhile_suffix _).length_le
    have h₂ : (tail.dropWhile fun c => isGap c || decide (c = '\n')).length ≤ tail.length :=
      (List.dropWhile_suffix _).length_le
    rw [hd, List.length_cons] at h₁
    omega
  · simp at h

/-- The string of several lines up to the three double quotes that close it, and the rest. -/
def basicLines? (s : List Char) : Option (List Char × List Char) :=
  match s with
  | [] => none
  | c :: s =>
    if c = '\\' then
      match _hl : hiddenLineEnd? s with
      | some rest => basicLines? rest
      | none =>
        match _he : escape? s with
        | none => none
        | some (c, rest) => (basicLines? rest).map (consTo c)
    else match if c = '\x22' then List.isPrefixOf? ['\x22', '\x22'] s else none with
      | some rest => some (closing '\x22' rest)
      | none => (basicLines? s).map (consTo c)
termination_by s.length
decreasing_by
  · have := length_hiddenLineEnd?_lt _hl
    simp only [List.length_cons]
    omega
  · have := length_escape?_lt _he
    simp only [List.length_cons]
    omega
  · simp

/-- The string of several lines up to the three single quotes that close it, and the rest. -/
def literalLines? (s : List Char) : Option (List Char × List Char) :=
  (Text.find? ['\x27', '\x27', '\x27'] s).map fun (front, rest) =>
    let (extra, rest) := closing '\x27' rest
    (front ++ extra, rest)

def dropLineEnd : List Char → List Char
  | '\n' :: s | '\r' :: '\n' :: s => s
  | s => s

def string? : List Char → Option (List Char × List Char)
  | '\x22' :: '\x22' :: '\x22' :: s => basicLines? (dropLineEnd s)
  | '\x27' :: '\x27' :: '\x27' :: s => literalLines? (dropLineEnd s)
  | '\x22' :: s => basic? s
  | '\x27' :: s => literal? s
  | _ => none

/-! ### Numbers and truth values -/

/-- Digits of a base without the lines between them. Each line stands between two digits. -/
def digitRun? (base : Nat) (s : List Char) : Option (List Char) :=
  let runs := s.splitOn '_'
  if runs.all fun run => (Text.digits? base run).isSome then some runs.flatten else none

/-- The digits of a decimal number that has no superfluous zero in front. -/
def whole? (s : List Char) : Option (List Char) :=
  (digitRun? 10 s).filter fun digits => digits == ['0'] || digits.head? != some '0'

/-- The minus sign that a text begins with, if it does, and what follows its sign. -/
def signOf : List Char → List Char × List Char
  | '-' :: s => (['-'], s)
  | '+' :: s => ([], s)
  | s => ([], s)

/-- The whole number that a text writes: with a sign in decimal, or without one after `0x`, `0o` or
`0b`. It has to fit a signed word of 64 bits. -/
def integer? (s : List Char) : Option Int :=
  let inBase (base : Nat) (s : List Char) : Option Int := do
    let n ← Text.digits? base (← digitRun? base s)
    if n < Text.wordCount 63 then some n else none
  match s with
  | '0' :: 'x' :: s => inBase 16 s
  | '0' :: 'o' :: s => inBase 8 s
  | '0' :: 'b' :: s => inBase 2 s
  | s => do
    let (minus, s) := signOf s
    Text.int? 64 (minus ++ (← whole? s))

/-- The exponent of a floating-point number, from its letter on, in a plain spelling. -/
def exponent? : List Char → Option (List Char)
  | [] => some []
  | c :: s =>
    if c = 'e' ∨ c = 'E' then
      let (minus, s) := signOf s
      (digitRun? 10 s).map fun digits => 'e' :: (minus ++ digits)
    else none

/-- The finite floating-point number, infinity or missing number that a text writes. -/
def float? (s : List Char) : Option Binary64 :=
  let (minus, s) := signOf s
  if s = "inf".toList then some (.infinite (!minus.isEmpty))
  else if s = "nan".toList then some .nan
  else do
    let isMark (c : Char) : Bool := c = 'e' || c = 'E'
    let exponent ← exponent? (s.dropWhile (!isMark ·))
    let whole ← whole? (Text.before '.' (s.takeWhile (!isMark ·)))
    let fraction ← match Text.cut? '.' (s.takeWhile (!isMark ·)) with
      | none => if exponent.isEmpty then none else some []
      | some (_, fraction) => (digitRun? 10 fraction).map ('.' :: ·)
    match ← Binary64.ofText? (minus ++ whole ++ fraction ++ exponent) with
    | .infinite _ => none
    | x => some x

/-- The value that a text without quotes or brackets writes. A date or a time is taken for text. -/
def bare? (s : List Char) : Option Setting :=
  if s = "true".toList then some (.bool true)
  else if s = "false".toList then some (.bool false)
  else (((integer? s).map .int).or ((float? s).map .float)).or
    ((dateTime? s).map fun text => .string (String.ofList text))

end SupplicantWatch.Toml
