import SupplicantWatch.Json
import SupplicantWatch.Setting.Basic

/-!
# Settings read as a type

Reading a value as a wanted type is generous: texts are taken for numbers and truth values, and the
other way round. An unset value is taken for nothing.
-/

namespace SupplicantWatch.Setting

def toText? : Setting → Option String
  | string s => some s
  | int n => some (String.ofList (Json.intChars n))
  | float x => some (String.ofList x.toChars)
  | bool b => some (if b then "true" else "false")
  | _ => none

/-- The number below `2 ^ bits`, at most 64 bits, that a value is taken for. -/
def toWord? (bits : Nat) (s : Setting) : Option Nat :=
  let word : Option Nat := match s with
    | string s =>
      let s := s.map Char.toLower
      if s ∈ ["true", "on", "yes"] then some 1
      else if s ∈ ["false", "off", "no"] then some 0
      else Text.word? 10 64 s.toList
    | int n => n.toNat?
    | float x => some (x.toWord 64)
    | bool b => some b.toNat
    | _ => none
  -- A number is read with 64 bits whatever the type, and then has to fit it.
  word.filter (· < Text.wordCount bits)

def toBool? : Setting → Option Bool
  | string s =>
    let s := s.map Char.toLower
    if s ∈ ["1", "true", "on", "yes"] then some true
    else if s ∈ ["0", "false", "off", "no"] then some false
    else none
  | int n => some (n != 0)
  | float x => some x.isNonzero
  | bool b => some b
  | _ => none

/-- The members of a record whose fields have these names: by key in a table, by position in a
list. -/
def members? (names : List String) : Setting → Option (List (String × Setting))
  | table entries => some entries
  | list items => some (names.zip items)
  | _ => none

/-- Reads a member of a record; one that is missing has a default. -/
def member {α : Type} (members : List (String × Setting)) (name : String)
    (read? : Setting → Option α) (default : α) : Option α :=
  match members.lookup name with
  | none => some default
  | some s => read? s

end SupplicantWatch.Setting
