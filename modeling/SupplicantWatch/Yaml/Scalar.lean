import SupplicantWatch.Json
import SupplicantWatch.Setting.Basic
import SupplicantWatch.Text.Scan

/-!
# Scalars of YAML

Readers for plain and quoted scalars. Where a scalar goes on to further lines, the line ends are
folded into spaces. Main statement: `length_escape?_lt`, an escape is never empty.
-/

namespace SupplicantWatch.Yaml

/-! ### Characters -/

def isSpace (c : Char) : Bool :=
  c = ' ' || c = '\t'

/-- Whether the character is a mark of collections that are written with brackets. -/
def isFlowMark (c : Char) : Bool :=
  c ∈ [',', '[', ']', '\x7b', '\x7d']

/-- Whether a text has nothing but white space and a comment up to the end of its line. -/
def isIdle (s : List Char) : Bool :=
  (s.dropWhile isSpace).head?.all fun c => c = '#' || c = '\n'

/-- Whether nothing but white space and a comment follows what stands before a text on a line. -/
def endsLine (s : List Char) : Bool :=
  s.head? != some '#' && isIdle s

/-! ### Quoted scalars -/

def escapeLetters : List (Char × Char) :=
  [('0', '\x00'), ('a', '\x07'), ('b', '\x08'), ('t', '\t'), ('\t', '\t'), ('n', '\n'),
   ('v', '\x0b'), ('f', '\x0c'), ('r', '\r'), ('e', '\x1b'), (' ', ' '), ('\x22', '\x22'),
   ('/', '/'), ('\\', '\\'), ('N', '\x85'), ('_', '\xa0'), ('L', '\u2028'), ('P', '\u2029')]

def escape? : List Char → Option (Char × List Char)
  | [] => none
  | c :: s =>
    if c = 'x' then Text.codePoint? 2 s
    else if c = 'u' then Text.codePoint? 4 s
    else if c = 'U' then Text.codePoint? 8 s
    else (escapeLetters.lookup c).map (·, s)

theorem length_escape?_lt {s rest : List Char} {c : Char} (h : escape? s = some (c, rest)) :
    rest.length < s.length := by
  cases s with
  | nil => simp [escape?] at h
  | cons a s =>
    simp only [escape?] at h
    split at h
    · exact Nat.lt_succ_of_le (Text.length_codePoint?_le h)
    split at h
    · exact Nat.lt_succ_of_le (Text.length_codePoint?_le h)
    · split at h
      · exact Nat.lt_succ_of_le (Text.length_codePoint?_le h)
      · obtain ⟨c', -, he⟩ := Option.map_eq_some_iff.1 h
        obtain ⟨-, rfl⟩ : c' = c ∧ s = rest := by simpa using he
        simp

/-- White space that a reader has met within a scalar: the spaces on one line, the latest first, or,
if there were any, the line ends, and whether the first of these was escaped. -/
structure Fold where
  spaces : List Char := []
  breaks : Nat := 0
  isEscaped : Bool := false

namespace Fold

/-- The white space with one more character of it. -/
def add (f : Fold) (c : Char) : Fold :=
  if c = '\n' then { f with breaks := f.breaks + 1 }
  else if f.breaks = 0 then { f with spaces := c :: f.spaces }
  else f

/-- What the white space stands for: itself on one line, a space for one line end, and all line ends
but the first one for several. -/
def text (f : Fold) : List Char :=
  match f.breaks with
  | 0 => f.spaces.reverse
  | 1 => if f.isEscaped then [] else [' ']
  | n + 2 => List.replicate (n + 1) '\n'

end Fold

/-- The text behind some white space up to the double quote that closes it, and the rest. -/
def double? (f : Fold) (s : List Char) : Option (List Char × List Char) :=
  match s with
  | [] => none
  | c :: s =>
    if isSpace c ∨ c = '\n' then double? (f.add c) s
    else if c = '\x22' then some (f.text, s)
    else if c = '\\' then
      match s with
      | '\n' :: s =>
        (double? ⟨[], 1, true⟩ s).map fun (front, rest) => (f.text ++ front, rest)
      | s =>
        match _h : escape? s with
        | none => none
        | some (c, rest) =>
          (double? {} rest).map fun (front, rest) => (f.text ++ c :: front, rest)
    else (double? {} s).map fun (front, rest) => (f.text ++ c :: front, rest)
termination_by s.length
decreasing_by
  · exact Nat.lt_succ_self _
  · simp only [List.length_cons]
    omega
  · exact Nat.lt_succ_of_lt (length_escape?_lt _h)
  · exact Nat.lt_succ_self _

/-- The text behind some white space up to the single quote that closes it, and the rest. Two single
quotes stand for one. -/
def single? : Fold → List Char → Option (List Char × List Char)
  | _, [] => none
  | f, '\x27' :: '\x27' :: s =>
    (single? {} s).map fun (front, rest) => (f.text ++ '\x27' :: front, rest)
  | f, c :: s =>
    if isSpace c ∨ c = '\n' then single? (f.add c) s
    else if c = '\x27' then some (f.text, s)
    else (single? {} s).map fun (front, rest) => (f.text ++ c :: front, rest)

def quoted? : List Char → Option (List Char × List Char)
  | '\x22' :: s => double? {} s
  | '\x27' :: s => single? {} s
  | _ => none

/-! ### Plain scalars -/

/-- Whether a colon or a dash before a text stands alone. -/
def standsAlone (inFlow : Bool) (s : List Char) : Bool :=
  s.head?.all fun c => isSpace c || c = '\n' || inFlow && isFlowMark c

/-- The text behind some white space up to a comment, a colon that stands alone, or a mark of a
collection that it is in, and the rest. White space at the end is left out. -/
def untilMark (inFlow : Bool) : Fold → List Char → List Char × List Char
  | _, [] => ([], [])
  | f, c :: s =>
    if isSpace c ∨ c = '\n' then
      let (front, rest) := untilMark inFlow (f.add c) s
      (front, if front.isEmpty then c :: s else rest)
    else if (c = '#' ∧ !f.text.isEmpty) ∨ (c = ':' ∧ standsAlone inFlow s)
        ∨ (inFlow ∧ isFlowMark c) then ([], c :: s)
    else
      let (front, rest) := untilMark inFlow {} s
      (f.text ++ c :: front, rest)

/-- Whether a plain scalar may begin a text. -/
def startsPlain (inFlow : Bool) : List Char → Bool
  | [] => false
  | c :: s =>
    if c ∈ ['-', '?', ':'] then !standsAlone inFlow s
    else !isSpace c && !isFlowMark c
      && c ∉ ['\n', '#', '&', '*', '!', '|', '>', '\x27', '\x22', '%', '@', '\x60']

def plain? (inFlow : Bool) (s : List Char) : Option (List Char × List Char) :=
  if startsPlain inFlow s then some (untilMark inFlow {} s) else none

/-- The value of digits of a base after at most one sign, if it fits a signed word of 64 bits. -/
def based? (base : Nat) (s : List Char) : Option Int :=
  let (negative, digits) := Binary64.sign s
  let value := (Text.digits? base digits).map fun n => if negative then -(n : Int) else n
  value.filter fun n => -Text.wordCount 63 ≤ n ∧ n < Text.wordCount 63

def int? : List Char → Option Int
  | '0' :: 'x' :: s => based? 16 s
  | '0' :: 'o' :: s => based? 8 s
  | '+' :: s => Text.int? 64 s
  | s => Text.int? 64 s

def words : List (String × Setting) :=
  [("~", .unset), ("null", .unset), ("true", .bool true), ("false", .bool false)]

/-- Whether a plain scalar is an infinity or no number, neither of which a setting may be. -/
def isSpecial (s : List Char) : Bool :=
  String.ofList (Binary64.sign s).2 ∈ [".inf", ".Inf", ".INF"]
    || String.ofList s ∈ [".nan", ".NaN", ".NAN"]

def plainValue? (s : List Char) : Option Setting :=
  match (int? s).map Setting.int |>.or (words.lookup (String.ofList s)) with
  | some value => some value
  | none =>
    if isSpecial s then none
    else match if s.any Char.isDigit then Binary64.ofText? s else none with
      | some x => some (.float x)
      | none => some (.string (String.ofList s))

/-- The key that a plain scalar is taken for. -/
def plainKey? (s : List Char) : Option String :=
  match int? s with
  | some n => some (String.ofList (Json.intChars n))
  | none =>
    let word := String.ofList s
    if word ∈ ["~", "null"] then none else some word

def key? (inFlow : Bool) (s : List Char) : Option (String × List Char) :=
  match quoted? s with
  | some (name, rest) => some (String.ofList name, rest)
  | none => (plain? inFlow s).bind fun (name, rest) => (plainKey? name).map (·, rest)

def scalar? (inFlow : Bool) (s : List Char) : Option (Setting × List Char) :=
  match quoted? s with
  | some (text, rest) => some (.string (String.ofList text), rest)
  | none => (plain? inFlow s).bind fun (text, rest) => (plainValue? text).map (·, rest)

end SupplicantWatch.Yaml
