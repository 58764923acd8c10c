import SupplicantWatch.Config
import SupplicantWatch.Setting.Reading
import SupplicantWatch.Settings.Format
import SupplicantWatch.Text.Utf8
import SupplicantWatch.Variables.Basic

/-!
# Settings

What can be chosen about the program. Settings come from a file, over which environment variables
are laid, and what neither of them says has a default.
-/

namespace SupplicantWatch

structure SocketConfig where
  /-- The socket on which the supplicant listens. -/
  controlPath : String := "/var/run/wpa_supplicant-global"
  /-- The directory for the program's own sockets. -/
  localDir : String := "/tmp"
  commandTimeoutMillis : Nat := 10000
deriving DecidableEq, Repr

structure Settings where
  monitor : Config := {}
  sockets : SocketConfig := {}
  /-- Which messages are logged unless the environment says so. -/
  logFilter : String := "wpa_monitor=info,wpa_events=info,wpa_ctrl=info"
deriving DecidableEq, Repr

inductive SettingsError where
  /-- A source could not be read. -/
  | unreadable
  /-- A value has the wrong type or is out of range. -/
  | invalid
deriving DecidableEq, Repr

def SettingsError.message : SettingsError → String
  | unreadable => "Failed to read settings"
  | invalid => "Invalid settings"

def Config.settingNames : List String :=
  ["p2p_interface", "dynamic_p2p_prefix", "connect_attempts", "connect_retry_interval_ms",
   "max_recv_errors", "icon_chunk_size", "event_log_capacity", "verbose"]

def Config.ofSetting? (s : Setting) : Option Config := do
  let members ← s.members? settingNames
  let d : Config := {}
  return {
    peerInterface := ← Setting.member members "p2p_interface" Setting.toText? d.peerInterface
    groupNameStart := ←
      Setting.member members "dynamic_p2p_prefix" Setting.toText? d.groupNameStart
    connectAttempts := ←
      Setting.member members "connect_attempts" (Setting.toWord? 32) d.connectAttempts
    connectRetryMillis := ←
      Setting.member members "connect_retry_interval_ms" (Setting.toWord? 64) d.connectRetryMillis
    maxReceiveErrors := ←
      Setting.member members "max_recv_errors" (Setting.toWord? 32) d.maxReceiveErrors
    iconChunkSize := ←
      Setting.member members "icon_chunk_size" (Setting.toWord? 64) d.iconChunkSize
    logCapacity := ←
      Setting.member members "event_log_capacity" (Setting.toWord? 64) d.logCapacity
    verbose := ← Setting.member members "verbose" Setting.toBool? d.verbose }

def SocketConfig.settingNames : List String :=
  ["ctrl_path", "local_dir", "command_timeout_ms"]

def SocketConfig.ofSetting? (s : Setting) : Option SocketConfig := do
  let members ← s.members? settingNames
  let d : SocketConfig := {}
  return {
    controlPath := ← Setting.member members "ctrl_path" Setting.toText? d.controlPath
    localDir := ← Setting.member members "local_dir" Setting.toText? d.localDir
    commandTimeoutMillis := ←
      Setting.member members "command_timeout_ms" (Setting.toWord? 64) d.commandTimeoutMillis }

namespace Settings

/-- The settings in a table; keys that mean nothing are passed over. -/
def ofSetting? (s : Setting) : Option Settings := do
  let d : Settings := {}
  return {
    monitor := ← Setting.member s.entries "monitor" Config.ofSetting? d.monitor
    sockets := ← Setting.member s.entries "ctrl" SocketConfig.ofSetting? d.sockets
    logFilter := ← Setting.member s.entries "log_filter" Setting.toText? d.logFilter }

/-! ### Files -/

/-- A path in reverse without what only says that it leads to a directory. -/
def dropDirectoryEnd : List Char → List Char
  | '/' :: s => dropDirectoryEnd s
  | '.' :: '/' :: s => dropDirectoryEnd s
  | s => s

/-- The last name in a path, if it is one of its own. -/
def lastName? (path : List Char) : Option (List Char) :=
  let name := ((dropDirectoryEnd path.reverse).takeWhile (· != '/')).reverse
  if String.ofList name ∈ ["", ".", ".."] then none else some name

/-- What is behind the last point of the last name in a path, unless only the first character of
that name is a point. -/
def fileExtension? (path : String) : Option String := do
  match Text.cut? '.' (← lastName? path.toList).reverse with
  | some (extension, _ :: _) => return String.ofList extension.reverse
  | _ => none

/-- A path with one more extension. -/
def withExtension? (path extension : String) : Option String :=
  (lastName? path.toList).map fun _ =>
    String.ofList ((dropDirectoryEnd path.toList.reverse).reverse ++ '.' :: extension.toList)

/-- The paths under which a settings file is looked for unless it is under its own, with the formats
that their extensions tell. -/
def otherPaths (path : String) : List (String × Format) :=
  Format.extensions.filterMap fun (extension, format) =>
    (withExtension? path extension).map (·, format)

/-- The settings file under a path and its format: the file itself if there is one, which has to be
of a known format, or else the file whose name has a known extension besides. -/
def findFile? (file? : String → Option (List UInt8)) (path : String) :
    Option (List UInt8 × Format) :=
  match file? path with
  | some bytes =>
    ((fileExtension? path).bind fun extension => Format.extensions.lookup extension).map (bytes, ·)
  | none => (otherPaths path).findSome? fun (path, format) => (file? path).map (·, format)

/-- The text in a settings file, without the mark of its encoding. -/
def fileText (bytes : List UInt8) : List Char :=
  match Utf8.decodeLossy bytes with
  | '\ufeff' :: text => text
  | text => text

/-- Values under keys laid over a value, where a key stands for a path. -/
def layOver (values : List (String × Setting)) (under : Setting) : Setting :=
  values.foldl (fun under (key, s) => s.put (Setting.pathOf key) under) under

/-- The settings in a file, if there is one, and in the variables that override it. -/
def ofSources (file : Option (List UInt8 × Format)) (environment : Variables) :
    Except SettingsError Settings :=
  let document : Option Setting := match file with
    | none => some (.table [])
    | some (bytes, format) => format.document? (fileText bytes)
  match document with
  | none => .error .unreadable
  | some document =>
    -- Keys of the file stand for paths just as the names of variables do.
    let root := layOver document.entries (.table [])
    let root := layOver environment.overrides.toList root
    (ofSetting? root).elim (.error .invalid) .ok

/-- Loads the settings from the file under a given path, which must be there, or from the file under
the usual path, which may be missing. -/
def load (file? : String → Option (List UInt8)) (path usualPath : Option String)
    (environment : Variables) : Except SettingsError Settings :=
  match path with
  | some path =>
    match findFile? file? path with
    | none => .error .unreadable
    | some file => ofSources (some file) environment
  | none => ofSources (usualPath.bind (findFile? file?)) environment

end Settings

end SupplicantWatch
