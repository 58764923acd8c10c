import SupplicantWatch.Text.Alphanumeric
import SupplicantWatch.Text.Digit
import SupplicantWatch.Text.Scan

/-!
# Patterns for the values of fields

A directive may ask for a field whose value fits a regular expression. Since such a directive is
about spans, all that matters is whether the pattern is sound. A brace that opens a count or a name
is refused, because the brace that closes it would end the field.
-/

namespace SupplicantWatch.Logging

inductive PatternError where
  | malformed
  | wordEdge
deriving DecidableEq, Repr

def PatternError.message : PatternError → String
  | malformed => "error building NFA"
  | wordEdge =>
    "unsupported regex feature for DFAs: cannot build DFAs for regexes with Unicode word "
      ++ "boundaries; switch to ASCII word boundaries, or heuristically enable Unicode word "
      ++ "boundaries or use a different regex engine"

namespace Pattern

/-! ### Escapes -/

/-- What an escape stands for: a character, one of some characters, or a place between characters,
such as the edge of a word. -/
inductive Escape where
  | literal (c : Char)
  | oneOf
  | place (isWordEdge : Bool)
deriving DecidableEq, Repr

def Escape.isPlace : Escape → Bool
  | place _ => true
  | _ => false

def escapeLetters : List (Char × Escape) :=
  [('a', .literal '\x07'), ('f', .literal '\x0c'), ('t', .literal '\t'), ('n', .literal '\n'),
   ('r', .literal '\r'), ('v', .literal '\x0b'), ('d', .oneOf), ('D', .oneOf), ('s', .oneOf),
   ('S', .oneOf), ('w', .oneOf), ('W', .oneOf), ('A', .place false), ('z', .place false),
   ('b', .place true), ('B', .place true), ('<', .place true), ('>', .place true)]

/-- The characters with the property of a letter, such as `L` for the letters. -/
def property? : List Char → Option (Escape × List Char)
  | [] => none
  | c :: s => if c.toLower ∈ ['c', 'l', 'm', 'n', 'p', 's', 'z'] then some (.oneOf, s) else none

def codePoint? (count : Nat) (s : List Char) : Option (Escape × List Char) :=
  (Text.codePoint? count s).map fun (c, rest) => (.literal c, rest)

/-- What an escape stands for, without its backslash, and the rest. Any ASCII character that is no
letter or digit stands for itself. -/
def escape? : List Char → Option (Escape × List Char)
  | [] => none
  | c :: s =>
    if c = 'x' then codePoint? 2 s
    else if c = 'u' then codePoint? 4 s
    else if c = 'U' then codePoint? 8 s
    else if c = 'p' ∨ c = 'P' then property? s
    else match escapeLetters.lookup c with
      | some escape => some (escape, s)
      | none => if c.toNat < 0x80 ∧ !c.isAlphanum then some (.literal c, s) else none

/-! ### Classes -/

def asciiClasses : List String :=
  ["alnum", "alpha", "ascii", "blank", "cntrl", "digit", "graph", "lower", "print", "punct",
   "space", "upper", "word", "xdigit"]

/-- The text behind a class of ASCII characters, whose opening bracket has been read. -/
def asciiClassEnd? (s : List Char) : Option (List Char) := do
  let s ← List.isPrefixOf? [':'] s
  let s := (List.isPrefixOf? ['^'] s).getD s
  let (name, rest) ← Text.cut? ':' s
  if String.ofList name ∈ asciiClasses then List.isPrefixOf? [']'] rest else none

/-- The text of a class behind what may only stand at its start. -/
def classStart (s : List Char) : List Char :=
  let s := (List.isPrefixOf? ['^'] s).getD s
  match s with
  | ']' :: rest => rest
  | s => s.dropWhile (· = '-')

def member? : List Char → Option (Escape × List Char)
  | [] => none
  | '\\' :: s => (escape? s).filter (!·.1.isPlace)
  | c :: s => some (.literal c, s)

/-- The text behind a member of a class or a range of members. -/
def rangeEnd? (s : List Char) : Option (List Char) := do
  let (first, rest) ← member? s
  match rest with
  | '-' :: s =>
    if s.head? ∈ [some ']', some '-'] then return rest
    match first, ← member? s with
    | .literal a, (.literal b, rest) => if a ≤ b then return rest else none
    | _, _ => none
  | rest => return rest

/-- The text behind a class that is itself inside of some classes. -/
def classEnd? : (bound depth : Nat) → List Char → Option (List Char)
  | 0, _, _ => none
  | bound + 1, depth, s =>
    match s with
    | [] => none
    | '[' :: s =>
      match asciiClassEnd? s with
      | some rest => classEnd? bound depth rest
      | none => classEnd? bound (depth + 1) (classStart s)
    | ']' :: s => if depth = 0 then some s else classEnd? bound (depth - 1) s
    | '&' :: '&' :: s | '-' :: '-' :: s | '~' :: '~' :: s => classEnd? bound depth s
    | s => (rangeEnd? s).bind (classEnd? bound depth)

/-! ### Groups -/

/-- The name of a group up to the mark that closes it, and the rest. -/
def groupName? (s : List Char) : Option (List Char × List Char) := do
  let (name, rest) ← Text.cut? '>' s
  let isLetter c := Text.isAlphanumeric c && !Text.isDecimalDigit c
  match name with
  | [] => none
  | c :: others =>
    if (c = '_' || isLetter c)
        && others.all fun c => c ∈ ['_', '.', '[', ']'] || Text.isAlphanumeric c then
      return (name, rest)
    else none

/-- The flags behind the question mark of a group, and the rest. No flag comes twice. -/
def flags? (s : List Char) : Option (List Char × List Char) :=
  let flags := s.takeWhile fun c => c != ':' && c != ')'
  if flags.all (· ∈ "imsUuxR-".toList) ∧ flags.Nodup ∧ flags.getLast? ≠ some '-' then
    some (flags, s.drop flags.length)
  else none

/-! ### Patterns -/

/-- What has been read of a pattern: the names of groups, how many groups are open, whether the
piece before may be repeated, whether an edge of a word is asked for, and the rest. -/
structure Reading where
  names : List (List Char) := []
  groups : Nat := 0
  canRepeat : Bool := false
  hasWordEdge : Bool := false
  rest : List Char

namespace Reading

def after (r : Reading) (rest : List Char) : Reading :=
  { r with canRepeat := true, rest }

/-- Reads the start of a group, of which the text behind the bracket is given. Flags alone hold up
to the end of the group around them. -/
def openGroup? (r : Reading) (s : List Char) : Option Reading :=
  let opened := { r with groups := r.groups + 1, canRepeat := false }
  match s with
  | '?' :: s =>
    if s.head? ∈ [some '=', some '!'] ∨ s.take 2 ∈ [['<', '='], ['<', '!']] then none
    else match (List.isPrefixOf? ['P', '<'] s).or (List.isPrefixOf? ['<'] s) with
      | some s => do
        let (name, rest) ← groupName? s
        if name ∈ r.names then none
        else return { opened with names := name :: r.names, rest }
      | none => do
        let (flags, rest) ← flags? s
        match rest with
        | ':' :: rest => return { opened with rest }
        | ')' :: rest => if flags = [] then none else return { r with canRepeat := false, rest }
        | _ => none
  | rest => some { opened with rest }

/-- Reads one piece of a pattern, whose first character and the text behind it are given. -/
def piece? (r : Reading) (c : Char) (s : List Char) : Option Reading :=
  match c with
  | '(' => r.openGroup? s
  | ')' => if r.groups = 0 then none else some { r.after s with groups := r.groups - 1 }
  | '|' => some { r with canRepeat := false, rest := s }
  | '[' => (classEnd? (s.length + 1) 0 (classStart s)).map r.after
  -- A question mark behind makes the repetition lazy.
  | '*' | '+' | '?' =>
    if r.canRepeat then some (r.after ((List.isPrefixOf? ['?'] s).getD s)) else none
  | '\x7b' => none
  | '\\' => do
    let (escape, rest) ← escape? s
    return { r.after rest with hasWordEdge := r.hasWordEdge || escape = .place true }
  | _ => some (r.after s)

/-- Reads the pieces up to the end, of which there are fewer than the bound says. -/
def pieces? : (bound : Nat) → Reading → Option Reading
  | 0, _ => none
  | bound + 1, r =>
    match r.rest with
    | [] => if r.groups = 0 then some r else none
    | c :: s => (r.piece? c s).bind (pieces? bound)

end Reading

def check (s : List Char) : Except PatternError Unit :=
  match Reading.pieces? (s.length + 1) { rest := s } with
  | none => .error .malformed
  | some r => if r.hasWordEdge then .error .wordEdge else .ok ()

end Pattern

end SupplicantWatch.Logging
