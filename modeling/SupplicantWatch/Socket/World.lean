import SupplicantWatch.Text.Utf8

/-!
# Datagram sockets

The local sockets of a program, the daemon that they talk to, and the datagrams on the way. Every
socket is bound to a file of its own, under a number that is never used again, because the daemon
replies to that file. Time does not appear: a receive that finds nothing has waited for as long as
it was willing to.
-/

namespace SupplicantWatch.Socket

inductive IoError where
  | notFound
  | connectionRefused
  /-- Nothing arrived in time. -/
  | timedOut
  /-- No time at all was allowed. -/
  | zeroTimeout
  | attachRejected (reply : String)
deriving DecidableEq, Repr

def IoError.message : IoError → String
  | notFound => "No such file or directory (os error 2)"
  | connectionRefused => "Connection refused (os error 111)"
  | timedOut => "Resource temporarily unavailable (os error 11)"
  | zeroTimeout => "cannot set a 0 duration timeout"
  | attachRejected reply => "ATTACH rejected: " ++ reply

/-- Whether there is a daemon at the path that sockets connect to. -/
inductive Presence where
  | absent
  /-- The path exists and nobody listens. -/
  | deaf
  /-- The daemon with this number listens. -/
  | running (daemon : Nat)
deriving DecidableEq, Repr

/-- An open socket: the daemon that it is connected to, and the datagrams that have arrived and not
been received, oldest first. -/
structure Endpoint where
  daemon : Nat
  queue : List (List UInt8)
deriving DecidableEq, Repr

/-- The sockets, the daemon and what is between them. The state of the daemon is a value of `δ`. -/
structure World (δ : Type) where
  /-- Whether the directory of the socket files exists. -/
  hasLocalDir : Bool
  /-- The number of the next socket. -/
  next : Nat
  /-- The numbers of the socket files that exist. -/
  files : List Nat
  /-- The open sockets under their numbers. -/
  endpoints : List (Nat × Endpoint)
  presence : Presence
  daemonState : δ
  /-- The commands that daemons have received. -/
  seen : List String
  /-- The socket that the running daemon heard last. -/
  lastHeard : Option Nat
  /-- The socket from which the running daemon last heard `ATTACH`. -/
  lastAttached : Option Nat

/-- The datagrams with which a daemon in a given state reacts to a command from a socket, and the
state it is in afterwards. -/
abbrev Reaction (δ : Type) : Type :=
  δ → (sender : Nat) → (command : String) → List (List UInt8) × δ

namespace World

variable {δ : Type}

def initial (hasLocalDir : Bool) (presence : Presence) (daemonState : δ) : World δ :=
  { hasLocalDir, next := 0, files := [], endpoints := [], presence, daemonState, seen := [],
    lastHeard := none, lastAttached := none }

def endpoint? (w : World δ) (n : Nat) : Option Endpoint :=
  w.endpoints.lookup n

def setQueue (w : World δ) (n : Nat) (queue : List (List UInt8)) : World δ :=
  { w with
    endpoints := w.endpoints.map fun (k, e) => (k, if k = n then { e with queue } else e) }

/-- Opens a socket: binds it to its file and connects it. A socket that cannot connect leaves no
file. -/
def openSocket (w : World δ) : Except IoError Nat × World δ :=
  let n := w.next
  -- The number is used up even if nothing comes of the socket.
  let w := { w with next := n + 1 }
  if !w.hasLocalDir then (.error .notFound, w)
  else match w.presence with
    | .absent => (.error .notFound, w)
    | .deaf => (.error .connectionRefused, w)
    | .running daemon =>
      (.ok n, { w with files := n :: w.files, endpoints := (n, ⟨daemon, []⟩) :: w.endpoints })

def unlink (w : World δ) (n : Nat) : World δ :=
  { w with files := w.files.filter (· != n) }

def close (w : World δ) (n : Nat) : World δ :=
  { w.unlink n with endpoints := w.endpoints.filter fun entry => entry.1 != n }

/-- The running daemon sends some datagrams to a socket. They arrive if the socket is connected to
that daemon and its file exists. -/
def deliver (w : World δ) (n : Nat) (datagrams : List (List UInt8)) : World δ :=
  match w.endpoint? n with
  | some e =>
    if w.presence = .running e.daemon ∧ n ∈ w.files then w.setQueue n (e.queue ++ datagrams) else w
  | none => w

/-- Sends a command from a socket. The daemon reacts at once. -/
def send (react : Reaction δ) (w : World δ) (n : Nat) (command : String) :
    Except IoError Unit × World δ :=
  match w.endpoint? n with
  | some e =>
    if w.presence = .running e.daemon then
      let (datagrams, daemonState) := react w.daemonState n command
      let w := { w with
        daemonState
        seen := w.seen ++ [command]
        lastHeard := some n
        lastAttached := if command = "ATTACH" then some n else w.lastAttached }
      -- What the daemon answers stands behind what has arrived before.
      (.ok (), w.deliver n datagrams)
    else (.error .connectionRefused, w)
  | none => (.error .connectionRefused, w)

/-- The number of bytes of a datagram that are received; the rest is lost. -/
def receiveLimit : Nat :=
  8192

def datagramText (bytes : List UInt8) : String :=
  String.ofList (Utf8.decodeLossy (bytes.take receiveLimit))

/-- Takes the oldest datagram that has arrived at a socket, if there is one. -/
def receive? (w : World δ) (n : Nat) : Option (String × World δ) :=
  match w.endpoint? n with
  | some ⟨_, datagram :: queue⟩ => some (datagramText datagram, w.setQueue n queue)
  | _ => none

/-- Whether a datagram is an event that nobody asked for. -/
def isUnsolicited (text : String) : Bool :=
  text.toList.head? == some '<'

/-- The first datagram of a queue that is a reply, and the queue behind it; without a reply all of
the queue is gone. -/
def firstReply : List (List UInt8) → Option String × List (List UInt8)
  | [] => (none, [])
  | datagram :: queue =>
    if isUnsolicited (datagramText datagram) then firstReply queue
    else (some (datagramText datagram), queue)

/-- Sends a command and takes the next datagram that is not an unsolicited event. The time allowed
for it is set only after the command is sent. -/
def request (react : Reaction δ) (w : World δ) (n : Nat) (command : String) (timeout : Nat) :
    Except IoError String × World δ :=
  match w.send react n command with
  | (.error e, w) => (.error e, w)
  | (.ok _, w) =>
    if timeout = 0 then (.error .zeroTimeout, w)
    else
      -- Replies carry no mark of their command: one that came too late for its own is taken here.
      let (reply, queue) := firstReply ((w.endpoint? n).elim [] (·.queue))
      (reply.elim (.error .timedOut) .ok, w.setQueue n queue)

/-- The daemon stops and its path goes. Open sockets stay connected to nobody. -/
def kill (w : World δ) : World δ :=
  { w with presence := .absent, lastHeard := none, lastAttached := none }

/-- A new daemon, under a number of its own, takes over what state is left. -/
def restart (w : World δ) (daemon : Nat) : World δ :=
  { w with presence := .running daemon, lastHeard := none, lastAttached := none }

end World

end SupplicantWatch.Socket
