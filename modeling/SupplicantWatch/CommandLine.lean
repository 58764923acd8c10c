import SupplicantWatch.Text.Scan

/-!
# The command line

What the arguments of the program ask for. Options are read in order, so that the first fault or
the first plea for help decides. An option has a long name after two dashes and may have a letter
after one; letters may stand together, and the value of an option may stand in the same argument or
in the next one.
-/

namespace SupplicantWatch.CommandLine

inductive Refusal where
  /-- The arguments are faulty. -/
  | usage
  /-- They ask for help. -/
  | help
  /-- They ask for the version. -/
  | version
deriving DecidableEq, Repr

inductive Kind where
  | flag
  | text
  /-- A text that must not be empty. -/
  | path
deriving DecidableEq, Repr

structure OptionForm where
  name : String
  letter : Option Char
  kind : Kind
deriving DecidableEq, Repr

structure Grammar where
  options : List OptionForm
  /-- Whether an argument that is no option ends the arguments of this command. -/
  endsAtWord : Bool
  /-- How many arguments there may be that are no options. -/
  mostWords : Option Nat
  /-- Whether such an argument may be empty. -/
  emptyWords : Bool

structure Arguments where
  options : List (String × String) := []
  words : List String := []
deriving DecidableEq, Repr

def helpForm : OptionForm :=
  ⟨"help", some 'h', .flag⟩

def versionForm : OptionForm :=
  ⟨"version", some 'V', .flag⟩

namespace Arguments

def has (a : Arguments) (name : String) : Bool :=
  (a.options.lookup name).isSome

/-- The arguments with one more option, which must not be there yet. -/
def addOption (a : Arguments) (form : OptionForm) (value : String) : Except Refusal Arguments :=
  if form = helpForm then .error .help
  else if form = versionForm then .error .version
  else if a.has form.name ∨ (form.kind = .path ∧ value = "") then .error .usage
  else .ok { a with options := a.options ++ [(form.name, value)] }

/-- The arguments with one more word, if the grammar has room for it. -/
def addWord (g : Grammar) (a : Arguments) (word : String) : Except Refusal Arguments :=
  if g.mostWords.any (· ≤ a.words.length) ∨ (word = "" ∧ !g.emptyWords) then .error .usage
  else .ok { a with words := a.words ++ [word] }

end Arguments

/-- Whether an argument may be the value of the option before it. A single dash may. -/
def isValue (arg : String) : Bool :=
  arg = "-" || arg.toList.head? != some '-'

/-- Reads the letters of an argument. The last of them may be that of an option whose value is still
to come. -/
def readLetters (g : Grammar) (a : Arguments) :
    List Char → Except Refusal (Arguments × Option OptionForm)
  | [] => .ok (a, none)
  | c :: s =>
    match g.options.find? (·.letter = some c) with
    | none => .error .usage
    | some form =>
      if form.kind = .flag then do readLetters g (← a.addOption form "") s
      else match s with
        | [] => .ok (a, some form)
        -- One equals sign before the value is not part of it.
        | '=' :: value => do return (← a.addOption form (String.ofList value), none)
        | value => do return (← a.addOption form (String.ofList value), none)

/-- Reads the long name of an option and, behind an equals sign, its value. -/
def readName (g : Grammar) (a : Arguments) (s : List Char) :
    Except Refusal (Arguments × Option OptionForm) :=
  let name := String.ofList (Text.before '=' s)
  match g.options.find? (·.name = name), Text.cut? '=' s with
  | none, _ => .error .usage
  | some form, none =>
    if form.kind = .flag then do return (← a.addOption form "", none) else .ok (a, some form)
  | some form, some (_, value) =>
    if form.kind = .flag then .error .usage
    else do return (← a.addOption form (String.ofList value), none)

def readOption (g : Grammar) (a : Arguments) (arg : String) :
    Except Refusal (Arguments × Option OptionForm) :=
  match arg.toList with
  | '-' :: '-' :: s => readName g a s
  | _ :: s => readLetters g a s
  | [] => .ok (a, none)

/-- Reads the arguments of a command, where an option may wait for its value, and returns those that
are left. -/
def read (g : Grammar) (a : Arguments) (waiting : Option OptionForm) :
    List String → Except Refusal (Arguments × List String)
  | [] => if waiting.isSome then .error .usage else .ok (a, [])
  | arg :: rest =>
    match waiting with
    | some form =>
      if isValue arg then do read g (← a.addOption form arg) none rest else .error .usage
    | none =>
      if arg = "--" then
        if g.endsAtWord then .error .usage
        else do return (← rest.foldlM (Arguments.addWord g) a, [])
      else if isValue arg then
        if g.endsAtWord then .ok (a, arg :: rest)
        else do read g (← a.addWord g arg) none rest
      else do
        let (a, waiting) ← readOption g a arg
        read g a waiting rest

/-! ### The commands of the program -/

inductive Command where
  /-- Watches the events of some interfaces. -/
  | monitor (interfaces : List String) (json : Bool)
  /-- Feeds a capture through a monitor. -/
  | replay (file interface : String) (json : Bool)
deriving DecidableEq, Repr

structure Invocation where
  /-- The path of the settings file. -/
  config : Option String
  verbose : Bool
  command : Command
deriving DecidableEq, Repr

/-- The arguments before the name of a command. -/
def mainGrammar : Grammar where
  options := [⟨"config", some 'c', .path⟩, ⟨"verbose", some 'v', .flag⟩, helpForm, versionForm]
  endsAtWord := true
  mostWords := some 0
  emptyWords := false

def jsonForm : OptionForm :=
  ⟨"json", none, .flag⟩

def monitorGrammar : Grammar where
  options := [jsonForm, helpForm]
  endsAtWord := false
  mostWords := none
  emptyWords := true

def replayGrammar : Grammar where
  options := [⟨"interface", none, .text⟩, jsonForm, helpForm]
  endsAtWord := false
  mostWords := some 1
  emptyWords := false

/-- The interface of a replay unless another is given. -/
def defaultInterface : String :=
  "wlan0"

def command (name : String) (args : List String) : Except Refusal Command :=
  match name with
  | "monitor" => do
    let (a, _) ← read monitorGrammar {} none args
    if a.words.isEmpty then .error .usage else .ok (.monitor a.words (a.has "json"))
  | "replay" => do
    let (a, _) ← read replayGrammar {} none args
    match a.words with
    | [file] =>
      .ok (.replay file ((a.options.lookup "interface").getD defaultInterface) (a.has "json"))
    | _ => .error .usage
  | "help" =>
    match args with
    | [] | ["monitor"] | ["replay"] | ["help"] => .error .help
    | _ => .error .usage
  | _ => .error .usage

def parse (args : List String) : Except Refusal Invocation := do
  let (a, rest) ← read mainGrammar {} none args
  match rest with
  | [] => .error .usage
  | name :: args =>
    return ⟨a.options.lookup "config", a.has "verbose", ← command name args⟩

end SupplicantWatch.CommandLine
