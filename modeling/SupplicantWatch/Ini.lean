import SupplicantWatch.Setting.Basic
import SupplicantWatch.Text.Numeral
import SupplicantWatch.Text.Scan

/-!
# Reading INI documents

A document is made of sections, each with its keys and their values. A backslash escapes almost
everywhere, names may run over several lines, and every value is text. Main statement:
`length_escape?_lt`, an escape is never empty.
-/

namespace SupplicantWatch.Ini

/-! ### Text -/

def escapeLetters : List (Char × Char) :=
  [('0', '\x00'), ('a', '\x07'), ('b', '\x08'), ('t', '\t'), ('r', '\r'), ('n', '\n')]

/-- What an escape stands for, without its backslash, and the rest. The end of a line stands for
nothing, four digits after `x` for a character, and any other character for itself. -/
def escape? : List Char → Option (List Char × List Char)
  | [] => none
  | c :: s =>
    if c = '\n' then some ([], s)
    else if c = 'x' then
      match if (s.take 4).length = 4 then Text.word? 16 32 (s.take 4) else none with
      | some n => if n.isValidChar then some ([Char.ofNat n], s.drop 4) else none
      | none => none
    else some ([(escapeLetters.lookup c).getD c], s)

theorem length_escape?_lt {s text rest : List Char} (h : escape? s = some (text, rest)) :
    rest.length < s.length := by
  unfold escape? at h
  split at h
  · simp at h
  · next c s =>
    split at h
    · obtain ⟨-, rfl⟩ : [] = text ∧ s = rest := by simpa using h
      simp
    split at h
    · split at h
      · next n _ =>
        split at h
        · obtain ⟨-, rfl⟩ : [Char.ofNat n] = text ∧ s.drop 4 = rest := by simpa using h
          simp only [List.length_cons, List.length_drop]
          omega
        · simp at h
      · simp at h
    · obtain ⟨-, rfl⟩ : _ = text ∧ s = rest := by simpa using h
      simp

/-- The text up to the first character at which `stop` holds, without its escapes, and the rest from
that character on. Whether the text may also end before there is one, `mayEnd` tells. -/
def until? (stop : Char → Bool) (mayEnd : Bool) (s : List Char) :
    Option (List Char × List Char) :=
  match s with
  | [] => if mayEnd then some ([], []) else none
  | c :: s =>
    if stop c then some ([], c :: s)
    else if c = '\\' then
      match _h : escape? s with
      | none => none
      | some (text, rest) =>
        (until? stop mayEnd rest).map fun (front, rest) => (text ++ front, rest)
    else (until? stop mayEnd s).map fun (front, rest) => (c :: front, rest)
termination_by s.length
decreasing_by
  · exact Nat.lt_succ_of_lt (length_escape?_lt _h)
  · exact Nat.lt_succ_self _

def isLineEnd (c : Char) : Bool :=
  c = '\n' || c = '\r'

/-- Whether the character opens a quoted part of a value. -/
def isQuote (c : Char) : Bool :=
  c = '\x22' || c = '\x27'

/-- The quoted parts that a value begins with, of which there are fewer than the bound says, and the
rest. -/
def quotedParts? : (bound : Nat) → List Char → Option (List Char × List Char)
  | 0, _ => none
  | bound + 1, s =>
    match s with
    | [] => some ([], [])
    | c :: rest =>
      if isQuote c then do
        let (part, rest) ← until? (· == c) false rest
        let (parts, rest) ← quotedParts? bound (rest.drop 1)
        return (part ++ parts, rest)
      else some ([], c :: rest)

/-- The value behind the mark of a key, and the rest from its line end on. Behind quoted parts the
white space before the rest of the line counts. -/
def value? (bound : Nat) (s : List Char) : Option (List Char × List Char) := do
  let s := s.dropWhile fun c => Text.isBlank c && !isLineEnd c
  let (parts, behind) ← quotedParts? bound s
  let (last, rest) ← until? isLineEnd true behind
  let last := if s.head?.any isQuote then Text.trimEnd last else Text.trim last
  return (parts ++ last, rest)

/-! ### Documents -/

/-- What has been read of a document: the latest section, if there has been one, and all entries. -/
structure Reading where
  heading : Option String := none
  entries : List (String × Setting) := []

/-- Opens a section, which takes the place of an earlier one of the same name. -/
def Reading.openSection (r : Reading) (name : String) : Reading :=
  ⟨some name, Setting.updateEntries name (fun _ => .table []) r.entries⟩

/-- Sets a key of the latest section, or of the document before the first section. -/
def Reading.set (r : Reading) (key value : String) : Reading :=
  let set := Setting.updateEntries key fun _ => .string value
  match r.heading with
  | none => { r with entries := set r.entries }
  | some name =>
    { r with entries := Setting.updateEntries name (fun s => .table (set s.entries)) r.entries }

/-- The text without the white space at its start, and whether what is left starts a line. -/
def skipBlank : (startsLine : Bool) → List Char → Bool × List Char
  | startsLine, [] => (startsLine, [])
  | startsLine, c :: s =>
    if Text.isBlank c then skipBlank (c == '\n') s else (startsLine, c :: s)

/-- Reads the statements up to the end of the text, of which there are fewer than the bound says. A
comment has to start its line. -/
def statements? : (bound : Nat) → (startsLine : Bool) → Reading → List Char → Option Reading
  | 0, _, _, _ => none
  | bound + 1, startsLine, r, s =>
    match skipBlank startsLine s with
    | (_, []) => some r
    | (startsLine, c :: s) =>
      if c = ';' ∨ c = '#' then
        if startsLine then statements? bound true r ((s.dropWhile (· != '\n')).drop 1) else none
      else if c = '[' then do
        let (name, rest) ← until? (· == ']') false s
        statements? bound false (r.openSection (String.ofList (Text.trim name))) (rest.drop 1)
      else do
        let (name, rest) ← until? (fun c => c == '=' || c == ':') false (c :: s)
        let name := Text.trim name
        if name = [] then none
        let (value, rest) ← value? (bound + 1) (rest.drop 1)
        statements? bound false (r.set (String.ofList name) (String.ofList value)) rest

def document? (s : List Char) : Option Setting :=
  (statements? (s.length + 1) true {} s).map fun r => .table r.entries

end SupplicantWatch.Ini
