import SupplicantWatch.Text.Alphanumeric
import SupplicantWatch.Text.ByteLines
import SupplicantWatch.Text.Utf8
import SupplicantWatch.Variables.Basic

/-!
# Files of environment variables

A `.env` file sets variables, one a line. The value of a line may be quoted, and a dollar sign in it
stands for a variable. A faulty line ends the file. Main statement: `get?_load_of_isSome`, a
variable that has been set before the file is read keeps its value.
-/

namespace SupplicantWatch.DotEnv

inductive Place where
  | plain
  /-- Within double quotes. -/
  | quoted
  /-- Within single quotes. -/
  | literal
  /-- Behind a backslash, within double quotes or not. -/
  | escaped (inQuotes : Bool)
  /-- In the name of a variable behind a dollar sign. Its characters stand in reverse. -/
  | name (inQuotes : Bool) (read : List Char)
  /-- In the name of a variable in braces. Its characters stand in reverse. -/
  | braced (inQuotes : Bool) (read : List Char)
  /-- Behind the value, where only a comment may stand. -/
  | behind
deriving DecidableEq, Repr

/-- The place where the reading goes on that has been interrupted. -/
def resume (inQuotes : Bool) : Place :=
  if inQuotes then .quoted else .plain

/-- The value of the variable whose name has been read, in reverse; it is empty if there is none. -/
def valueOf (v : Variables) (read : List Char) : List Char :=
  ((v.get? (String.ofList read.reverse)).getD "").toList

/-- The characters that stand for themselves behind a backslash. -/
def selfEscaped : List Char :=
  ['\\', '\x27', '\x22', '$', ' ']

/-- Reads one more character of a value: the text that it adds, and where the reading stands then.
There is none if the character must not stand there. -/
def step? (v : Variables) : Place → Char → Option (List Char × Place)
  | .behind, c => if c = ' ' ∨ c = '\t' then some ([], .behind) else none
  | .escaped inQuotes, c =>
    if c ∈ selfEscaped then some ([c], resume inQuotes)
    else if c = 'n' then some (['\n'], resume inQuotes)
    else none
  | .literal, c => if c = '\x27' then some ([], .plain) else some ([c], .literal)
  | .name inQuotes read, c =>
    if Text.isAlphanumeric c then some ([], .name inQuotes (c :: read))
    else if c = '\x7b' ∧ read = [] then some ([], .braced inQuotes [])
    else if c = '$' then some (valueOf v read, .name inQuotes [])
    else some (valueOf v read ++ [c], resume inQuotes)
  | .braced inQuotes read, c =>
    if c = '\x7d' then some (valueOf v read, resume inQuotes)
    else some ([], .braced inQuotes (c :: read))
  | .quoted, c =>
    if c = '$' then some ([], .name true [])
    else if c = '\x22' then some ([], .plain)
    else if c = '\\' then some ([], .escaped true)
    else some ([c], .quoted)
  | .plain, c =>
    if c = '$' then some ([], .name false [])
    else if c = '\x27' then some ([], .literal)
    else if c = '\x22' then some ([], .quoted)
    else if c = '\\' then some ([], .escaped false)
    else if c = ' ' ∨ c = '\t' then some ([], .behind)
    else some ([c], .plain)

/-- The text that the end of a value adds. There is none if a quote or a brace is still open. -/
def finish? (v : Variables) : Place → Option (List Char)
  | .plain | .behind | .escaped false => some []
  | .name false read => some (valueOf v read)
  | .quoted | .literal | .escaped true | .name true _ | .braced .. => none

def readFrom? (v : Variables) : Place → List Char → Option (List Char)
  | place, [] => finish? v place
  | place, c :: s =>
    if place = .behind ∧ c = '#' then some []
    else match step? v place c with
      | none => none
      | some (text, place) => (readFrom? v place s).map (text ++ ·)

def name? (s : List Char) : Option (List Char × List Char) :=
  match s with
  | c :: _ =>
    if c.isAlpha ∨ c = '_' then some (s.span fun c => c.isAlphanum || c = '_' || c = '.') else none
  | [] => none

/-- The variable that a trimmed line that is no comment sets, and its value. -/
def assignment? (v : Variables) (line : List Char) : Option (String × String) := do
  let (name, rest) ← name? line
  let rest := Text.trimStart rest
  let (name, rest) ←
    if name = "export".toList ∧ rest.head? ≠ some '=' then name? rest else some (name, rest)
  let value ← List.isPrefixOf? ['='] (Text.trimStart rest)
  let value := Text.trimStart value
  let text ← if value.head? = some '#' then some [] else readFrom? v .plain value
  return (String.ofList name, String.ofList text)

/-- Sets the variables of some lines up to the first faulty one. -/
def loadLines : List (List UInt8) → Variables → Variables
  | [], v => v
  | bytes :: rest, v =>
    match (Utf8.decode? bytes).map Text.trim with
    | none => v
    | some line =>
      if line.isEmpty || line.head? == some '#' then loadLines rest v
      else match assignment? v line with
        | none => v
        | some (name, value) => loadLines rest (v.add name value)

def load (file : List UInt8) (v : Variables) : Variables :=
  loadLines (Text.byteLines file) v

private theorem get?_loadLines_of_isSome {name : String} (lines : List (List UInt8))
    {v : Variables} (h : (v.get? name).isSome) :
    (loadLines lines v).get? name = v.get? name := by
  induction lines generalizing v with
  | nil => rfl
  | cons bytes rest ih =>
    unfold loadLines
    split
    · rfl
    · split
      · exact ih h
      · split
        · rfl
        · next name' value _ =>
          have hk := Variables.get?_add_of_isSome h name' value
          rw [ih (by rw [hk]; exact h), hk]

/-- A variable that has been set before a file is read keeps its value. -/
theorem get?_load_of_isSome {name : String} (file : List UInt8) {v : Variables}
    (h : (v.get? name).isSome) : (load file v).get? name = v.get? name :=
  get?_loadLines_of_isSome _ h

end SupplicantWatch.DotEnv
