import SupplicantWatch.Logging.Directive

/-!
# Log filters

Which messages are shown. A filter is a list of directives; for a message the most telling directive
that fits it decides.
-/

namespace SupplicantWatch.Logging

abbrev Filter : Type :=
  List Directive

namespace Filter

def parts (text : String) : List (List Char) :=
  (text.toList.splitOn ',').filter (!·.isEmpty)

/-- The filter that a text writes, if all of its directives are sound. -/
def ofText? (text : String) : Option Filter :=
  (parts text).mapM fun part => (Directive.ofText part).toOption

/-- The sound directives in a text. Without any, errors are shown. -/
def ofTextLossy (text : String) : Filter :=
  match (parts text).filterMap fun part => (Directive.ofText part).toOption with
  | [] => [.messages "" none 1]
  | directives => directives

/-- What is said about the parts of a text that are no directives. -/
def complaints (text : String) : List String :=
  (parts text).filterMap fun part =>
    match Directive.ofText part with
    | .ok _ => none
    | .error e => some ("ignoring `" ++ String.ofList part ++ "`: " ++ e.message)

/-- The field that every message has, and its only one. -/
def textField : String :=
  "message"

/-- How telling a directive is for the messages of a target, by the length of its own target and
then by whether it names a field, and the rank that it gives, if it fits them. -/
def weigh? (target : String) : Directive → Option (Nat × Nat × Nat)
  | .messages start field rank =>
    if start.toList.isPrefixOf target.toList && field.all (· == textField) then
      some (start.length, field.toList.length, rank)
    else none
  | .spans => none

/-- The more telling of two, and the second if they are alike. -/
def prefer (a b : Nat × Nat × Nat) : Nat × Nat × Nat :=
  if b.1 < a.1 ∨ (b.1 = a.1 ∧ b.2.1 < a.2.1) then a else b

/-- The rank up to which the messages of a target are shown. -/
def rankOf (f : Filter) (target : String) : Nat :=
  match f.filterMap (weigh? target) with
  | [] => 0
  | first :: rest => (rest.foldl prefer first).2.2

def shows (f : Filter) (m : Message) : Bool :=
  m.level.rank ≤ f.rankOf m.target

/-- The filter of a run, and what is said about its text: everything but traces if much was asked
for, what the environment says if it is sound, and otherwise what the settings say. -/
def choose (verbose : Bool) (fromEnvironment : Option String) (setting : String) :
    Filter × List String :=
  if verbose then ([.messages "" none 4], [])
  else match fromEnvironment.bind ofText? with
    | some filter => (filter, [])
    | none => (ofTextLossy setting, complaints setting)

end Filter

end SupplicantWatch.Logging
