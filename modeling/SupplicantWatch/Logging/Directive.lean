import SupplicantWatch.Binary64
import SupplicantWatch.Logging.Message
import SupplicantWatch.Logging.Pattern

/-!
# Log directives

A directive gives the level up to which the messages of some targets are shown. It is a level alone,
or the beginning of the targets' names and perhaps a level; a condition on spans and fields may
stand in brackets between them.
-/

namespace SupplicantWatch.Logging

inductive DirectiveError where
  | malformed
  | badLevel
  | badValue (e : PatternError)
deriving DecidableEq, Repr

def DirectiveError.message : DirectiveError → String
  | malformed => "invalid filter directive"
  | badLevel =>
    "error parsing level filter: expected one of \"off\", \"error\", \"warn\", \"info\", "
      ++ "\"debug\", \"trace\", or a number 0-5"
  | badValue e => "invalid field filter: " ++ e.message

/-- A directive about messages shows those whose target begins as given, and which have the field if
one is given, up to a rank, zero for none. A directive about spans says nothing of messages outside
of spans. -/
inductive Directive where
  | messages (target : String) (field : Option String) (rank : Nat)
  | spans
deriving DecidableEq, Repr

/-- The rank with a given name in any case or with a given number. -/
def rank? (s : List Char) : Option Nat :=
  let names := [("off", 0), ("error", 1), ("warn", 2), ("info", 3), ("debug", 4), ("trace", 5)]
  ((Text.word? 10 64 s).filter (· ≤ 5)).or (names.lookup (String.ofList (s.map Char.toLower)))

/-- The rank that a text behind an equals sign gives, the highest if it is empty. -/
def rankOf (s : List Char) : Except DirectiveError Nat :=
  if s = [] then .ok 5 else (rank? s).elim (.error .badLevel) .ok

/-- Whether the character may be the first of the name of a target. -/
def isTargetStart (c : Char) : Bool :=
  c = '-' || c = ':' || c = '_' || Text.isAlphanumeric c

/-- A text and what is left to read of it. The words of a directive are cut out of the text with the
white space around it, at the places where they stand in the text without it. -/
structure Reading where
  text : List Char
  length : Nat
  rest : List Char

namespace Reading

def start (text : List Char) : Reading :=
  let s := Text.trim text
  ⟨text, s.length, s⟩

/-- Reads up to the first character at which `stop` holds, and returns the word so far. -/
def upTo (stop : Char → Bool) (r : Reading) : List Char × Reading :=
  let front := r.rest.takeWhile (!stop ·)
  let word := (r.text.drop (r.length - r.rest.length)).take front.length
  (word, { r with rest := r.rest.drop front.length })

/-- What is left of the text, together with the white space behind it. -/
def remainder (r : Reading) : List Char :=
  r.text.drop (r.length - r.rest.length)

def skip (r : Reading) : Reading :=
  { r with rest := r.rest.drop 1 }

def rankAtEnd (r : Reading) : Except DirectiveError Nat :=
  match r.rest with
  | [] => .ok 5
  | '=' :: _ => rankOf r.skip.remainder
  | _ => .error .malformed

/-- Checks the value that a field is to have, if one is given: a number or a pattern. -/
def checkField (field : List Char) : Except DirectiveError Unit :=
  match field.splitOn '=' with
  | _ :: value :: _ =>
    if (Binary64.ofText? value).isSome then .ok ()
    else (Pattern.check value).mapError .badValue
  | _ => .ok ()

/-- Reads the directive for a target from behind its opening bracket on. Without the name of a span
and without a value for a field it is about messages. -/
def brackets (target : List Char) (r : Reading) : Except DirectiveError Directive :=
  let (span, r) := r.upTo fun c => c == ']' || c == '\x7b'
  match r.rest with
  | ']' :: _ => r.skip.rankAtEnd.map fun _ => .spans
  | '\x7b' :: _ =>
    let (field, r) := r.skip.upTo (· == '\x7d')
    if field = [] ∨ r.rest = [] then .error .malformed
    else do
      checkField field
      match r.rest with
      | '\x7d' :: ']' :: _ =>
        r.skip.skip.rankAtEnd.map fun rank =>
          if span = [] ∧ '=' ∉ field then
            .messages (String.ofList target) (some (String.ofList field)) rank
          else .spans
      | _ => .error .malformed
  | _ => .error .malformed

end Reading

/-- The directive that a text writes. A word alone is a level if it names one. -/
def Directive.ofText (text : List Char) : Except DirectiveError Directive :=
  let r := Reading.start text
  match r.rest with
  | [] => .error .malformed
  | '[' :: _ => r.skip.brackets []
  | c :: _ =>
    if isTargetStart c then
      let (target, r) := r.upTo fun c => c == '=' || c == '['
      match r.rest with
      | [] =>
        -- A word that names a level is never taken for a target.
        match rank? text with
        | some rank => .ok (.messages "" none rank)
        | none => .ok (.messages (String.ofList text) none 5)
      | '=' :: _ =>
        (rankOf r.skip.remainder).map fun rank => .messages (String.ofList target) none rank
      | _ => r.skip.brackets target
    else .error .malformed

end SupplicantWatch.Logging
