import SupplicantWatch.Setting.Path
import SupplicantWatch.Toml.Scalar
import SupplicantWatch.Toml.Tree

/-!
# Reading TOML documents

A document is read statement by statement: a header opens a table, and a key with a value adds to
the latest one. A document with a fault anywhere is refused as a whole, and so is one that nests too
deep. Where values nest, a bound on the text left ends the recursion.
-/

namespace SupplicantWatch.Toml

/-- The text without the white space, line ends and comments at its start; it may start within a
comment. -/
def skipSpace : (inComment : Bool) → List Char → List Char
  | _, [] => []
  | true, c :: s => skipSpace (c != '\n') s
  | false, c :: s =>
    if isGap c ∨ c = '\n' then skipSpace false s
    else if c = '#' then skipSpace true s
    else c :: s

/-- The part of a dotted key that a text begins with, and the rest. -/
def key? (s : List Char) : Option (String × List Char) :=
  let read := match s with
    | '\x22' :: s => basic? s
    | '\x27' :: s => literal? s
    | s => Text.some? Setting.isNameChar s
  read.map fun (name, rest) => (String.ofList name, rest)

/-- The dotted key of at most so many names that a text begins with, and the rest without white
space before it. -/
def pathWithin? : (names : Nat) → List Char → Option (List String × List Char)
  | 0, _ => none
  | names + 1, s =>
    match key? s with
    | none => none
    | some (key, rest) =>
      match rest.dropWhile isGap with
      | '.' :: next =>
        (pathWithin? names (next.dropWhile isGap)).map fun (path, rest) => (key :: path, rest)
      | rest => some ([key], rest)

/-- How many names a dotted key may have, and how deep values may nest. -/
def depthLimit : Nat :=
  80

/-- The dotted key that a text begins with, and the rest without white space before it. -/
def path? (s : List Char) : Option (List String × List Char) :=
  pathWithin? depthLimit s

/-- Whether the character may stand in a value without quotes or brackets. -/
def isBareChar (c : Char) : Bool :=
  Setting.isNameChar c || c = '.' || c = '+' || c = ':'

/-- The text without quotes or brackets that a text begins with, and the rest. Another one may
follow after a space, as the time after a date. -/
def bareText (s : List Char) : List Char × List Char :=
  let (first, rest) := (s.takeWhile isBareChar, s.dropWhile isBareChar)
  match rest with
  | ' ' :: next =>
    match next.takeWhile isBareChar with
    | [] => (first, rest)
    | second => (first ++ ' ' :: second, next.dropWhile isBareChar)
  | rest => (first, rest)

mutual

/-- The value that a text begins with, and the rest. Values nest at most as deep as given. -/
def value? : (bound depth : Nat) → List Char → Option (Setting × List Char)
  | 0, _, _ => none
  | bound + 1, depth, s =>
    match s with
    | '[' :: s =>
      if depth = 0 then none
      else
        (items? bound (depth - 1) (skipSpace false s)).map fun (items, rest) => (.list items, rest)
    | '\x7b' :: s =>
      if depth = 0 then none
      else
        (pairs? bound (depth - 1) [] (skipSpace false s)).map fun (entries, rest) =>
          (.table (settings entries), rest)
    | s =>
      match string? s with
      | some (text, rest) => some (.string (String.ofList text), rest)
      | none => (bare? (bareText s).1).map (·, (bareText s).2)

/-- The items of a list up to its closing bracket, and the rest. A comma may follow the last. -/
def items? : (bound depth : Nat) → List Char → Option (List Setting × List Char)
  | 0, _, _ => none
  | bound + 1, depth, s =>
    match s with
    | ']' :: rest => some ([], rest)
    | s =>
      match value? bound depth s with
      | none => none
      | some (item, rest) =>
        match skipSpace false rest with
        | ',' :: rest =>
          (items? bound depth (skipSpace false rest)).map fun (items, rest) =>
            (item :: items, rest)
        | ']' :: rest => some ([item], rest)
        | _ => none

/-- The entries of a table in braces up to its closing brace, and the rest. A comma may follow the
last. -/
def pairs? : (bound depth : Nat) → Entries → List Char → Option (Entries × List Char)
  | 0, _, _, _ => none
  | bound + 1, depth, entries, s =>
    match s with
    | '\x7d' :: rest => some (entries, rest)
    | s =>
      match path? s with
      | none => none
      | some (path, rest) =>
        match skipSpace false rest with
        | '=' :: rest =>
          match value? bound depth (skipSpace false rest) with
          | none => none
          | some (value, rest) =>
            match addValue value path entries, skipSpace false rest with
            | some entries, ',' :: rest => pairs? bound depth entries (skipSpace false rest)
            | some entries, '\x7d' :: rest => some (entries, rest)
            | _, _ => none
        | _ => none

end

/-- What has been read of a document: the path of the latest header, all entries, and the text
behind. -/
structure Reading where
  header : List String
  entries : Entries
  rest : List Char

/-- What follows the end of a statement, with its line end if there is one. -/
def statementEnd? (s : List Char) : Option (List Char) :=
  match s.dropWhile isGap with
  | [] => some []
  | '\n' :: s => some s
  | '#' :: s => some (s.dropWhile (· != '\n'))
  | _ => none

/-- Reads a header that closes with the given brackets, where `f` opens its table. -/
def header? (f : Option Node → Option Node) (close s : List Char) (entries : Entries) :
    Option Reading := do
  let (header, rest) ← path? (s.dropWhile isGap)
  let rest ← statementEnd? (← List.isPrefixOf? close rest)
  return ⟨header, ← descend f header entries, rest⟩

/-- Reads one statement, where the bound ends the recursion in values. -/
def statement? (bound : Nat) (r : Reading) : Option Reading :=
  match r.rest with
  | '[' :: '[' :: s => header? openElement [']', ']'] s r.entries
  | '[' :: s => header? openTable [']'] s r.entries
  | s => do
    let (path, rest) ← path? s
    let rest ← List.isPrefixOf? ['='] rest
    let (value, rest) ← value? bound depthLimit (rest.dropWhile isGap)
    return { r with entries := ← addUnder r.header path value r.entries,
                    rest := ← statementEnd? rest }

/-- Reads the statements up to the end of the text, of which there are fewer than the bound says. -/
def statements? (valueBound : Nat) : (bound : Nat) → Reading → Option Entries
  | 0, _ => none
  | bound + 1, r =>
    match skipSpace false r.rest with
    | [] => some r.entries
    | s => (statement? valueBound { r with rest := s }).bind (statements? valueBound bound)

/-- Whether the character may stand in a document: no control character but those of white space. -/
def isDocumentChar (c : Char) : Bool :=
  c = '\t' || c = '\n' || c = '\r' || (0x20 ≤ c.toNat && c.toNat != 0x7f)

/-- Whether a line feed follows every carriage return. -/
def hasWholeLineEnds : List Char → Bool
  | '\r' :: '\n' :: s => hasWholeLineEnds s
  | '\r' :: _ => false
  | _ :: s => hasWholeLineEnds s
  | [] => true

/-- The table that a document describes, which may begin with the mark of its encoding. A statement
takes at least a character, and so does a level of the recursion in every third step. -/
def document? (s : List Char) : Option Setting :=
  let s := match s with
    | '\ufeff' :: s => s
    | s => s
  let length := s.length
  if s.all isDocumentChar && hasWholeLineEnds s then
    (statements? (3 * length + 3) (length + 1) ⟨[], [], s⟩).map fun entries =>
      .table (settings entries)
  else none

end SupplicantWatch.Toml
