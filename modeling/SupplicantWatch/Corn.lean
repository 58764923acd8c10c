import SupplicantWatch.Binary64
import SupplicantWatch.Setting.Basic
import SupplicantWatch.Text.Scan

/-!
# Reading Corn documents

A document is one object, whose keys are paths and whose values stand behind equals signs with
nothing between them but white space. Definitions that go before it are refused. Where values nest,
a bound on the text left ends the recursion. Main statement: `get?_setAt`, what is set under a key
stands there.
-/

namespace SupplicantWatch.Corn

def isSpace (c : Char) : Bool :=
  c ∈ [' ', '\t', '\n', '\r']

def skipGap : (inComment : Bool) → List Char → List Char
  | _, [] => []
  | true, c :: s => skipGap (c != '\n') s
  | false, c :: s =>
    if isSpace c then skipGap false s
    else if c = '/' ∧ s.head? = some '/' then skipGap true s
    else c :: s

/-! ### Values that do not nest -/

def escapeLetters : List (Char × Char) :=
  [('n', '\n'), ('r', '\r'), ('t', '\t'), ('\\', '\\'), ('\x22', '\x22'), ('$', '$')]

/-- The text up to the double quote that closes it, of which there are fewer characters than the
bound says, and the rest. It may not refer to a definition. -/
def string? : (bound : Nat) → List Char → Option (List Char × List Char)
  | 0, _ => none
  | bound + 1, s =>
    match s with
    | [] => none
    | c :: s => do
      if c = '\x22' then return ([], s)
      else if c = '$' then none
      else
        let (c, s) ← if c ≠ '\\' then some (c, s) else
          match s with
          | 'u' :: s => Text.codePoint? 4 s
          | c :: s => (escapeLetters.lookup c).map (·, s)
          | [] => none
        let (front, rest) ← string? bound s
        return (c :: front, rest)

/-- The value that some characters between gaps and brackets stand for. -/
def bare? (s : List Char) : Option Setting :=
  match String.ofList s with
  | "true" => some (.bool true)
  | "false" => some (.bool false)
  | "null" => some .unset
  | _ =>
    let (negative, digits) := Binary64.sign s
    let digits := digits.filter (· != '_')
    let whole : Option Nat := match digits with
      | '0' :: 'x' :: digits => Text.digits? 16 digits
      | '0' :: 'b' :: digits => Text.digits? 2 digits
      | '0' :: 'o' :: digits => Text.digits? 8 digits
      | digits => Text.digits? 10 digits
    match whole with
    | some n =>
      let n : Int := if negative then -n else n
      if -Text.wordCount 63 ≤ n ∧ n < Text.wordCount 63 then some (.int n) else none
    | none => if '.' ∈ digits then (Binary64.unsigned? negative digits).map .float else none

/-! ### Keys -/

/-- One name of a path, in single quotes or without, and the rest. -/
def name? : List Char → Option (List Char × List Char)
  | '\x27' :: s => Text.cut? '\x27' s
  | s => Text.some? (fun c => !isSpace c && c != '=' && c != '.') s

/-- The names of a path up to its equals sign, of which there are fewer than the bound says, and the
rest. -/
def path? : (bound : Nat) → List Char → Option (List String × List Char)
  | 0, _ => none
  | bound + 1, s => do
    let (name, rest) ← name? s
    match rest with
    | '.' :: rest =>
      let (names, rest) ← path? bound rest
      return (String.ofList name :: names, rest)
    | rest => return ([String.ofList name], ← List.isPrefixOf? ['='] (skipGap false rest))

/-- Some entries with a value set under a path, where the names before the last one stand for
tables. -/
def setAt (value : Setting) : (path : List String) → List (String × Setting) →
    Option (List (String × Setting))
  | [], _ => none
  | [key], entries => some (Setting.updateEntries key (fun _ => value) entries)
  | key :: path, entries => do
    let under : List (String × Setting) ← match entries.lookup key with
      | none => some []
      | some (.table under) => some under
      | some _ => none
    let under ← setAt value path under
    return Setting.updateEntries key (fun _ => .table under) entries

/-! ### Documents -/

mutual

def value? : (bound : Nat) → List Char → Option (Setting × List Char)
  | 0, _ => none
  | bound + 1, s =>
    match s with
    | '[' :: s => (items? bound (skipGap false s)).map fun (items, rest) => (.list items, rest)
    | '\x7b' :: s =>
      (pairs? bound [] (skipGap false s)).map fun (pairs, rest) => (.table pairs, rest)
    | '\x22' :: s => (string? bound s).map fun (text, rest) => (.string (String.ofList text), rest)
    | s => do
      let (word, rest) ← Text.some? (fun c => !isSpace c && c ∉ [']', '\x7d', '/']) s
      return (← bare? word, rest)

def items? : (bound : Nat) → List Char → Option (List Setting × List Char)
  | 0, _ => none
  | bound + 1, s =>
    match s with
    | ']' :: rest => some ([], rest)
    | s =>
      match value? bound s with
      | none => none
      | some (item, rest) =>
        (items? bound (skipGap false rest)).map fun (items, rest) => (item :: items, rest)

/-- The pairs up to the closing brace, set into those read before, and the rest. -/
def pairs? : (bound : Nat) → List (String × Setting) → List Char →
    Option (List (String × Setting) × List Char)
  | 0, _, _ => none
  | bound + 1, pairs, s =>
    match s with
    | '\x7d' :: rest => some (pairs, rest)
    | s =>
      match path? (bound + 1) s with
      | none => none
      | some (path, rest) =>
        match value? bound (skipGap false rest) with
        | none => none
        | some (value, rest) =>
          match setAt value path pairs with
          | none => none
          | some pairs => pairs? bound pairs (skipGap false rest)

end

def document? (s : List Char) : Option Setting :=
  match value? (2 * s.length + 2) (skipGap false s) with
  | some (.table pairs, rest) => if (skipGap false rest).isEmpty then some (.table pairs) else none
  | _ => none

theorem get?_setAt (key : String) (value : Setting) (entries : List (String × Setting)) :
    (setAt value [key] entries).bind (Setting.table · |>.get? key) = some value := by
  change ((Setting.table entries).update key fun _ => value).get? key = some value
  rw [Setting.get?_update, if_pos rfl]

end SupplicantWatch.Corn
