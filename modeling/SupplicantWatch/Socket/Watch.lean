import SupplicantWatch.Monitor.Step
import SupplicantWatch.Socket.Transport

/-!
# The monitor over sockets

Here the lines of a reader come from somewhere: from the socket that it held on to when it began to
wait, at which a daemon puts its events. The daemon knows the sockets that have attached themselves
and sends every event to each of them. Any interleaving of callers, readers and events is a list of
moves, and a run tells which lines were handed on to be classified.
-/

namespace SupplicantWatch.Socket

variable {η δ : Type}

/-- A daemon that keeps a list of the sockets attached to it and answers every other command as
`react` does. -/
def attaching (react : Reaction δ) : Reaction (List Nat × δ) :=
  fun (attached, state) sender command =>
    let consent := [Utf8.encode "OK\n".toList]
    if command = "ATTACH" then (consent, (sender :: attached, state))
    else if command = "DETACH" then (consent, (attached.filter (· != sender), state))
    else
      let (datagrams, state) := react state sender command
      (datagrams, (attached, state))

/-- The world after the daemon has sent an event to every socket attached to it. -/
def World.report (w : World (List Nat × δ)) (event : List UInt8) : World (List Nat × δ) :=
  w.daemonState.1.foldl (fun w n => w.deliver n [event]) w

abbrev Watch (η δ : Type) : Type :=
  Monitor η (Link (List Nat × δ)) (Option Nat)

/-- What happens next in a run over sockets. -/
inductive Move (η : Type) where
  /-- A section of a caller or a reader, other than the receipt of a line. -/
  | act (action : Action η)
  /-- The `i`-th reader receives the next line from the socket that it holds. -/
  | arrive (i : Nat)
  /-- The daemon reports an event. -/
  | report (event : List UInt8)
deriving DecidableEq

namespace Watch

/-- The monitor before anything has happened, next to a daemon in a given state. -/
def new (config : Config) (state : δ) : Watch η δ :=
  Monitor.new config { world := .initial true (.running 0) ([], state) }

/-- The lines that a section hands on to be classified. -/
def handedOn (m : Watch η δ) : Action η → List String
  | .handle i =>
    match m.readers[i]? with
    | some (.holding line) => [line]
    | _ => []
  | .processLine line => [line]
  | _ => []

/-- What a reader receives: the state after it, if it waits and a line is there. -/
def arrive? (t : Transport (Link (List Nat × δ)) (Option Nat)) (m : Watch η δ) (i : Nat) :
    Option (Watch η δ) :=
  match m.readers[i]? with
  | some (.waiting source) =>
    -- The line comes from the socket that the wait began on, even if there is another one by now.
    (m.transport.lineFrom? source).map fun (line, transport) =>
      { m with transport }.receive t i source line
  | _ => none

/-- What a move does: the lines that it hands on and the state after it, if it can be made. -/
def step (t : Transport (Link (List Nat × δ)) (Option Nat)) (m : Watch η δ) :
    Move η → Option (List String × Watch η δ)
  -- Lines arrive from a socket only, by a move of their own.
  | .act (.receive _ _) => none
  | .act action => (Monitor.step t m action).map fun (_, m') => (m.handedOn action, m')
  | .arrive i => (m.arrive? t i).map fun m => ([], m)
  | .report event =>
    some ([], { m with transport.world := m.transport.world.report event })

/-- The lines that some moves hand on one after the other and the state after them, if all of them
can be made. -/
def steps (t : Transport (Link (List Nat × δ)) (Option Nat)) (m : Watch η δ) :
    List (Move η) → Option (List String × Watch η δ)
  | [] => some ([], m)
  | move :: moves => do
    let (lines, m) ← Watch.step t m move
    let (lines', m) ← Watch.steps t m moves
    return (lines ++ lines', m)

def reports (event : List UInt8) : List (Move η) → Nat
  | [] => 0
  | .report event' :: moves => (if event' = event then 1 else 0) + reports event moves
  | _ :: moves => reports event moves

end Watch

end SupplicantWatch.Socket
