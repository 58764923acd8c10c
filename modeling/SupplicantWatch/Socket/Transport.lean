import SupplicantWatch.Control
import SupplicantWatch.Monitor.Basic
import SupplicantWatch.Socket.World
import SupplicantWatch.Text.Blank

/-!
# The transport over sockets

Commands and events go over sockets of their own, so that waiting for an event never holds up a
command. A connection that cannot be made leaves everything as it was.
-/

namespace SupplicantWatch.Socket

/-- The sockets for commands and for events, when there is a connection, among all that there is. -/
structure Link (δ : Type) where
  world : World δ
  command : Option Nat := none
  monitor : Option Nat := none
  /-- The sockets from which events are awaited. They stay open until the waits are over. -/
  held : List Nat := []

/-- The line that stands for a receive that failed. -/
def receiveErrorLine : String :=
  "CTRL-EVENT-TERMINATING - recv error"

def dropLineFeeds (s : List Char) : List Char :=
  (s.reverse.dropWhile (· == '\n')).reverse

/-- An event datagram without its line feeds and without its priority, digits between angle
brackets. -/
def stripPriority (message : String) : String :=
  let text := dropLineFeeds message.toList
  let event := do
    let rest ← List.isPrefixOf? ['<'] text
    let (level, event) ← Text.cut? '>' rest
    if level.all Char.isDigit then some event else none
  String.ofList (event.getD text)

namespace Link

variable {δ : Type}

/-- Closes a socket that the link has no use for any more, unless it is still held. -/
def drop (l : Link δ) (n : Nat) : Link δ :=
  -- Whoever waits on the socket closes it when the wait is over.
  if n ∈ l.held then l else { l with world := l.world.close n }

/-- The link with other sockets in the place of its own, which are dropped. -/
def replace (l : Link δ) (command monitor : Option Nat) : Link δ :=
  let l' := { l with command, monitor }
  let l' := l.command.elim l' l'.drop
  l.monitor.elim l' l'.drop

/-- Takes hold of the socket for events. -/
def take (l : Link δ) : Option Nat × Link δ :=
  (l.monitor, { l with held := l.monitor.toList ++ l.held })

/-- Lets go of a socket. It is dropped if it has been replaced meanwhile. -/
def release (source : Option Nat) (l : Link δ) : Link δ :=
  match source with
  | none => l
  | some n =>
    let l := { l with held := l.held.erase n }
    if l.monitor = some n then l else l.drop n

/-- Opens the two sockets and attaches the second for events. Unless the daemon says `OK` they are
closed again. -/
def connect (react : Reaction δ) (timeout : Nat) (l : Link δ) : Except IoError Unit × Link δ :=
  match l.world.openSocket with
  | (.error e, world) => (.error e, { l with world })
  | (.ok command, world) =>
    match world.openSocket with
    | (.error e, world) => (.error e, { l with world := world.close command })
    | (.ok monitor, world) =>
      match world.request react monitor "ATTACH" timeout with
      | (.error e, world) => (.error e, { l with world := (world.close monitor).close command })
      | (.ok reply, world) =>
        -- A rejection is told in the daemon's words, without the white space behind them.
        let reply := String.ofList (Text.trimEnd reply.toList)
        if reply = "OK" then (.ok (), { l with world }.replace (some command) (some monitor))
        else
          (.error (.attachRejected reply), { l with world := (world.close monitor).close command })

/-- The next line from a source; without a socket it is the line of a failed receive. There is none
while nothing has arrived. -/
def lineFrom? (source : Option Nat) (l : Link δ) : Option (String × Link δ) :=
  match source with
  | none => some (receiveErrorLine, l)
  | some n => (l.world.receive? n).map fun (text, world) => (stripPriority text, { l with world })

/-- The next line of an event, from a wait that nothing comes between. -/
def nextLine? (l : Link δ) : Option (String × Link δ) :=
  let (source, l) := l.take
  (l.lineFrom? source).map fun (line, l) => (line, l.release source)

/-- The reply to a command without its line feeds, if there is one. -/
def query (react : Reaction δ) (timeout : Nat) (l : Link δ) (command : String) :
    Option String × Link δ :=
  match l.command with
  | none => (none, l)
  | some n =>
    let (result, world) := l.world.request react n command timeout
    (result.toOption.map fun reply => String.ofList (dropLineFeeds reply.toList), { l with world })

/-- Detaches, whatever comes of it, and closes both sockets. -/
def disconnect (react : Reaction δ) (timeout : Nat) (l : Link δ) : Link δ :=
  let world := match l.monitor with
    | some n => (l.world.request react n "DETACH" timeout).2
    | none => l.world
  { l with world }.replace none none

def transport (react : Reaction δ) (timeout : Nat) : Transport (Link δ) (Option Nat) where
  connect l :=
    let (result, l) := l.connect react timeout
    (result.toBool, l)
  query l := l.query react timeout
  disconnect l := l.disconnect react timeout
  take := take
  release := release

end Link

end SupplicantWatch.Socket
