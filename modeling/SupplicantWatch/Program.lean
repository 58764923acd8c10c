import SupplicantWatch.CommandLine
import SupplicantWatch.Directory
import SupplicantWatch.Logging.Filter
import SupplicantWatch.Replay
import SupplicantWatch.Settings
import SupplicantWatch.Socket.Transport
import SupplicantWatch.Variables.DotEnv

/-!
# The program

What a run of the program writes, given its arguments, the environment and the files. A replay runs
to the end of its capture. Watching is followed up to the point where it has started or failed; the
supplicant itself is outside of a run, so it is not there.
-/

namespace SupplicantWatch.Program

structure Surroundings where
  environment : Variables
  /-- What a path leads to. -/
  entry? : String → Option Entry

def Surroundings.file? (around : Surroundings) (path : String) : Option (List UInt8) :=
  (around.entry? path).bind Entry.bytes?

/-- What a run leaves behind: its code, and the lines of its output and of its complaints. -/
structure Outcome where
  code : Nat
  output : List String
  complaints : List String
deriving DecidableEq, Repr

def versionLine : String :=
  "wpa-monitor 0.1.0"

def usageLines : List String :=
  ["Watch wpa_supplicant control events and print them as they arrive", "",
   "Usage: wpa-monitor [-c <file>] [-v] monitor <interface>... [--json]",
   "       wpa-monitor [-c <file>] [-v] replay <file> [--interface <interface>] [--json]"]

def variablesPath : String :=
  ".env"

/-- The path of the settings file unless another is given: in the user's directory for
configuration, which variables name. -/
def usualSettingsPath (v : Variables) : Option String :=
  -- A relative path in this variable does not count.
  let directory := match v.get? "XDG_CONFIG_HOME" with
    | some path => if path.toList.head? = some '/' then some path else none
    | none => none
  let home := (v.get? "HOME").map (· ++ "/.config")
  (directory.or home).map (· ++ "/wpa-monitor/config.toml")

/-- The name of the variable that chooses what is logged. -/
def filterVariable : String :=
  "RUST_LOG"

inductive Failure where
  | settings (e : SettingsError)
  | unopened (file : String)
  | unstarted (interface : String)
deriving DecidableEq, Repr

def Failure.message : Failure → String
  | settings e => "Error: " ++ e.message
  | unopened file => "Error: Failed to open " ++ file
  | unstarted interface => "Error: Failed to start monitoring " ++ interface

/-- The lines of some texts that are written one after the other, each with a line end. -/
def linesOf (texts : List String) : List String :=
  (Text.lines (texts.flatMap fun text => text.toList ++ ['\n'])).map String.ofList

/-- The outcome of a command from what it has written and its failure, if it failed. -/
def outcome (output complaints : List String) (failure : Option Failure) : Outcome :=
  ⟨if failure.isSome then 1 else 0, linesOf output,
    linesOf (complaints ++ failure.toList.map Failure.message)⟩

/-! ### Output -/

/-- The text that shows a message, if the filter lets it through. -/
def logged (filter : Logging.Filter) (level : Logging.Level) (target text : String) :
    List String :=
  let message : Logging.Message := ⟨level, target, text⟩
  if filter.shows message then [message.shown] else []

/-- What the call of a printer writes: a record, or a message if the filter lets it through. -/
def printed (filter : Logging.Filter) (json : Bool) (call : Call String) : List String :=
  if json then [call.event.record call.handler]
  else
    logged filter .info "wpa_monitor::printer"
      ("[" ++ call.handler ++ "] " ++ call.event.text)

/-- What is written at the start of the monitoring of an interface: that it starts, the attempts to
connect that failed, the calls of printers, and that the supplicant cannot be reached. -/
def writtenAtStart (filter : Logging.Filter) (json : Bool) (interface : String)
    (failed : List String) (result : Except MonitorError Unit) (calls : List (Call String)) :
    List String :=
  logged filter .info "wpa_events::monitor"
      ("Starting monitoring for " ++ interface ++ " (connected: false)")
    ++ failed.flatMap (logged filter .warn "wpa_events::monitor")
    ++ calls.flatMap (printed filter json)
    ++ match result with
      | .ok _ => []
      | .error _ =>
        logged filter .error "wpa_events::monitor"
          ("Could not reach the supplicant for " ++ interface)

/-! ### Commands -/

/-- The capture under a path. A directory can be opened too, but no line can be read from it. -/
def capture? (around : Surroundings) (path : String) : Option Capture :=
  (around.entry? path).map fun entry => .ofBytes (entry.bytes?.getD [])

/-- Replays a capture from the start to the end: what is written, and the failure, if any. -/
def replay (around : Surroundings) (s : Settings) (filter : Logging.Filter)
    (file interface : String) (json : Bool) : List String × Option Failure :=
  match capture? around file with
  | none => ([], some (.unopened file))
  | some capture =>
    let (result, calls, _) := Replay.run s.monitor interface capture
    let failure := match result with
      | .ok _ => none
      | .error _ => some (.unstarted interface)
    let opening := logged filter .info "wpa_monitor::replay" ("Replaying " ++ file)
    (opening ++ writtenAtStart filter json interface [] result calls, failure)

def noSupplicant (s : Settings) : Transport (Socket.Link Unit) (Option Nat) :=
  Socket.Link.transport (fun state _ _ => ([], state)) s.sockets.commandTimeoutMillis

/-- The interfaces to watch: those given, and the one of the peers. -/
def watched (s : Settings) (interfaces : List String) : List String :=
  if s.monitor.peerInterface ∈ interfaces then interfaces
  else interfaces ++ [s.monitor.peerInterface]

/-- The messages about the attempts to connect when every one of them fails. -/
def failedAttempts (attempts : Nat) : List String :=
  (List.range attempts).map fun i =>
    "Connect attempt " ++ toString (i + 1) ++ "/" ++ toString attempts ++ " failed: "
      ++ Socket.IoError.notFound.message

/-- Starts to watch some interfaces, up to the first that cannot be started. -/
def startAll (s : Settings) (filter : Logging.Filter) (json : Bool) :
    List String → Monitor String (Socket.Link Unit) (Option Nat) → List String × Option Failure
  | [], _ => ([], none)
  | interface :: rest, m =>
    match m.start (noSupplicant s) interface with
    | (.ok result, calls, m) =>
      let (lines, failure) := startAll s filter json rest m
      (writtenAtStart filter json interface [] (.ok result) calls ++ lines, failure)
    | (.error e, calls, _) =>
      let failed := failedAttempts s.monitor.connectAttempts
      (writtenAtStart filter json interface failed (.error e) calls, some (.unstarted interface))

/-- Watches some interfaces with a printer each: what is written, and the failure, if any. -/
def watch (s : Settings) (filter : Logging.Filter) (interfaces : List String) (json : Bool) :
    List String × Option Failure :=
  let interfaces := watched s interfaces
  let m : Monitor String (Socket.Link Unit) (Option Nat) :=
    .new s.monitor { world := .initial true .absent () }
  let m := interfaces.foldl (fun m interface => m.registerAll interface interface) m
  startAll s filter json interfaces m

/-! ### Runs -/

def loadedVariables (around : Surroundings) : Variables :=
  DotEnv.load ((around.file? variablesPath).getD []) around.environment

def runInvocation (around : Surroundings) (i : CommandLine.Invocation) : Outcome :=
  let environment := loadedVariables around
  match Settings.load around.file? i.config (usualSettingsPath environment) environment with
  | .error e => outcome [] [] (some (.settings e))
  | .ok s =>
    let (filter, complaints) :=
      Logging.Filter.choose i.verbose (environment.get? filterVariable) s.logFilter
    let (output, failure) := match i.command with
      | .monitor interfaces json => watch s filter interfaces json
      | .replay file interface json => replay around s filter file interface json
    outcome output complaints failure

def run (around : Surroundings) (args : List String) : Outcome :=
  match CommandLine.parse args with
  | .error .help => ⟨0, usageLines, []⟩
  | .error .version => ⟨0, [versionLine], []⟩
  | .error .usage => ⟨2, [], usageLines⟩
  | .ok i => runInvocation around i

/-- The paths that a run with some arguments may follow once the variables are loaded. -/
def pathsOf (v : Variables) (args : List String) : List String :=
  match CommandLine.parse args with
  | .error _ => []
  | .ok i =>
    let settings := i.config.toList ++ (usualSettingsPath v).toList
    let capture := match i.command with
      | .replay file _ _ => [file]
      | .monitor _ _ => []
    settings ++ settings.flatMap (fun path => (Settings.otherPaths path).map (·.1)) ++ capture

end SupplicantWatch.Program
