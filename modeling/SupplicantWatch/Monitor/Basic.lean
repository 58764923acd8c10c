import SupplicantWatch.Classifier
import SupplicantWatch.LineLog
import SupplicantWatch.Registry

/-!
# The monitor

One connection to the supplicant, one reader of its lines, and the handlers of its events. Callers
and readers share the state under a lock; every definition here is what one of them does while it
holds the lock, so that any run is a sequence of these sections. A section returns the calls of
handlers that it makes, in order.
-/

namespace SupplicantWatch

/-- The way to the supplicant. Whoever waits for a line holds on to the source that the line is to
come from, a value of `κ`. The arrival of lines is not part of it: it is a step of a reader. -/
structure Transport (σ κ : Type) where
  /-- Tries to connect and tells whether that succeeded. -/
  connect : σ → Bool × σ
  query : Daemon σ
  disconnect : σ → σ
  /-- Takes hold of the source of the next line. -/
  take : σ → κ × σ
  /-- Lets go of a source. -/
  release : κ → σ → σ

/-- The way to the supplicant after some commands, whatever was replied to them. -/
def Transport.after {σ κ : Type} (t : Transport σ κ) (commands : List String) (state : σ) : σ :=
  commands.foldl (fun state command => (t.query state command).2) state

/-- Where a reader stands between two of its sections. -/
inductive Reader (κ : Type) where
  /-- It is about to look whether the connection is still wanted. -/
  | checking
  /-- It has seen that the connection is wanted and is about to wait. -/
  | ready
  /-- It waits for a line from a source. -/
  | waiting (source : κ)
  /-- It has received a line and not handled it yet. -/
  | holding (line : String)
  /-- Its wait or its handling of a line has crashed and it has not told so yet. -/
  | crashed
deriving DecidableEq, Repr

def Reader.isChecking {κ : Type} : Reader κ → Bool
  | checking => true
  | _ => false

def Reader.isWaiting {κ : Type} : Reader κ → Bool
  | waiting _ => true
  | _ => false

inductive MonitorError where
  | connectFailed (attempts : Nat)
deriving DecidableEq, Repr

def MonitorError.message : MonitorError → String
  | connectFailed attempts =>
    "unable to connect to supplicant after " ++ toString attempts ++ " attempts"

/-- The state that callers and readers share, the readers that have not ended, and the way to the
supplicant. -/
structure Monitor (η σ κ : Type) where
  config : Config
  connected : Bool
  readerRunning : Bool
  registry : Registry η
  classifier : Classifier
  log : LineLog
  readers : List (Reader κ)
  transport : σ

namespace Monitor

variable {η σ κ : Type}

def new (config : Config) (transport : σ) : Monitor η σ κ :=
  { config
    connected := false
    readerRunning := false
    registry := .empty
    classifier := .new config
    log := { capacity := config.logCapacity }
    readers := []
    transport }

/-! ### Callers -/

def register (m : Monitor η σ κ) (interface : String) (kind : EventKind) (handler : η) :
    Monitor η σ κ :=
  { m with registry := m.registry.register interface kind handler }

def registerAll (m : Monitor η σ κ) (interface : String) (handler : η) : Monitor η σ κ :=
  { m with registry := m.registry.registerAll interface handler }

def setMonitoring (m : Monitor η σ κ) (interface : String) (enabled : Bool) : Monitor η σ κ :=
  { m with registry := m.registry.setMonitoring interface enabled }

/-- Tries to connect until it succeeds, at most as often as given. -/
def tryConnect (t : Transport σ κ) : (attempts : Nat) → σ → Bool × σ
  | 0, state => (false, state)
  | attempts + 1, state =>
    match t.connect state with
    | (true, state) => (true, state)
    | (false, state) => tryConnect t attempts state

/-- The monitor once it has connected: the receive errors are forgotten, and a reader starts unless
one is running. -/
def onConnected (m : Monitor η σ κ) (transport : σ) : Monitor η σ κ :=
  { m with
    connected := true
    classifier := m.classifier.resetReceiveErrors
    readerRunning := true
    -- A reader that has not noticed the end of its connection goes on with the new one.
    readers := if m.readerRunning then m.readers else m.readers ++ [.checking]
    transport }

/-- Makes sure that there is a connection and tells whether there is one. -/
def ensureConnected (t : Transport σ κ) (m : Monitor η σ κ) : Bool × Monitor η σ κ :=
  if m.connected then (true, m)
  else match tryConnect t m.config.connectAttempts m.transport with
    | (true, transport) => (true, m.onConnected transport)
    | (false, transport) => (false, { m with transport })

/-- Starts the monitoring of an interface and tells its handlers that the supplicant is there. When
it cannot be reached they are told that it is gone, and the monitoring stays as it was. -/
def start (t : Transport σ κ) (m : Monitor η σ κ) (interface : String) :
    Except MonitorError Unit × List (Call η) × Monitor η σ κ :=
  match ensureConnected t m with
  | (true, m) =>
    let m := m.setMonitoring interface true
    (.ok (), m.registry.dispatch (some interface) .supplicantConnection, m)
  | (false, m) =>
    -- Only a monitored interface is told anything, so this one is monitored meanwhile.
    let was := m.registry.isMonitoring interface
    let m := m.setMonitoring interface true
    let calls := m.registry.dispatch (some interface) .supplicantDisconnection
    (.error (.connectFailed m.config.connectAttempts), calls, m.setMonitoring interface was)

/-- An attempt to connect crashes after some that failed, if it comes to that. What was under way
had changed nothing yet but the way to the supplicant. -/
def connectCrash? (t : Transport σ κ) (m : Monitor η σ κ) (attempts : Nat) :
    Option (Monitor η σ κ) :=
  if m.connected ∨ m.config.connectAttempts ≤ attempts then none
  else match tryConnect t attempts m.transport with
    | (true, _) => none
    | (false, transport) => some { m with transport }

/-- Stops the monitoring of an interface once its handlers were told that the supplicant is gone. -/
def stop (m : Monitor η σ κ) (interface : String) : List (Call η) × Monitor η σ κ :=
  -- Its handlers are to hear of it even if the interface was not monitored any more.
  let m := m.setMonitoring interface true
  let calls := m.registry.dispatch (some interface) .supplicantDisconnection
  (calls, m.setMonitoring interface false)

/-- Gives the connection up and silences every interface. A reader notices after its next line. -/
def stopAll (m : Monitor η σ κ) : Monitor η σ κ :=
  { m with connected := false, registry := m.registry.clearMonitoring }

/-- Delivers an event as if the supplicant had reported it. -/
def broadcast (m : Monitor η σ κ) (interface : Option String) (event : Event) : List (Call η) :=
  m.registry.dispatch interface event

def classifyLine (t : Transport σ κ) (m : Monitor η σ κ) (line : String) :
    Signal × List (Call η) × Monitor η σ κ :=
  let ((classified, classifier), _, transport) :=
    (m.classifier.classify m.registry.isRegistered line).run t.query m.transport
  let calls := classified.event.elim [] (m.registry.dispatch classified.interface)
  (classified.signal, calls, { m with classifier, transport })

def processLine (t : Transport σ κ) (m : Monitor η σ κ) (line : String) :
    Signal × List (Call η) × Monitor η σ κ :=
  match m.classifyLine t line with
  -- Only a reader takes the sockets down.
  | (.terminate, calls, m) => (.terminate, calls, { m with connected := false })
  | (.goOn, calls, m) => (.goOn, calls, m)

/-- A line is not handled to the end because a question about it crashes, after some commands. What
was under way had changed nothing yet but the way to the supplicant. -/
def breakOff (t : Transport σ κ) (m : Monitor η σ κ) (commands : List String) : Monitor η σ κ :=
  { m with transport := t.after commands m.transport }

/-! ### Readers -/

def moveReader (m : Monitor η σ κ) (i : Nat) (place : Reader κ) : Monitor η σ κ :=
  { m with readers := m.readers.set i place }

def endReader (m : Monitor η σ κ) (i : Nat) : Monitor η σ κ :=
  { m with readerRunning := false, readers := m.readers.eraseIdx i }

/-- A reader looks whether the connection is still wanted: it goes on to wait for a line or ends. -/
def check (m : Monitor η σ κ) (i : Nat) : Monitor η σ κ :=
  if m.connected then m.moveReader i .ready else m.endReader i

def await (t : Transport σ κ) (m : Monitor η σ κ) (i : Nat) : Monitor η σ κ :=
  let (source, transport) := t.take m.transport
  { m with transport }.moveReader i (.waiting source)

/-- Whether a line is kept in the log; scan updates are too frequent to be worth it. -/
def isLogged (line : String) : Bool :=
  !Text.occurs "BSS-ADDED".toList line.toList && !Text.occurs "BSS-REMOVED".toList line.toList

def receive (t : Transport σ κ) (m : Monitor η σ κ) (i : Nat) (source : κ) (line : String) :
    Monitor η σ κ :=
  let m := { m with transport := t.release source m.transport }.moveReader i (.holding line)
  if isLogged line then { m with log := m.log.record line } else m

def crash (t : Transport σ κ) (m : Monitor η σ κ) (i : Nat) (source : κ) : Monitor η σ κ :=
  { m with transport := t.release source m.transport }.moveReader i .crashed

/-- A reader handles a line that it received; a line that ends the connection ends the reader. -/
def handle (t : Transport σ κ) (m : Monitor η σ κ) (i : Nat) (line : String) :
    List (Call η) × Monitor η σ κ :=
  match m.classifyLine t line with
  | (.terminate, calls, m) =>
    let m := { m with connected := false, transport := t.disconnect m.transport }
    (calls, m.endReader i)
  | (.goOn, calls, m) => (calls, m.moveReader i .checking)

/-- A question about a line that a reader handles crashes, after some commands. -/
def handleCrash (t : Transport σ κ) (m : Monitor η σ κ) (i : Nat) (commands : List String) :
    Monitor η σ κ :=
  (m.breakOff t commands).moveReader i .crashed

/-- A reader that has crashed gives the connection up and ends. -/
def giveUp (t : Transport σ κ) (m : Monitor η σ κ) (i : Nat) :
    List (Call η) × Monitor η σ κ :=
  -- Every monitored interface is told before the sockets are closed.
  let calls := m.registry.dispatch none .supplicantDisconnection
  let m := { m with connected := false, transport := t.disconnect m.transport }
  (calls, m.endReader i)

end Monitor

end SupplicantWatch
