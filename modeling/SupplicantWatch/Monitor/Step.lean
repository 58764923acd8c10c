import SupplicantWatch.Monitor.Basic

/-!
# Steps of the monitor

The sections of callers and readers as the steps of one transition system. A step of a reader is
possible only where that reader stands at the right place; what line a waiting reader receives, and
whether its wait, a question about its line or an attempt to connect crashes instead, is left open.
Any interleaving is a list of actions.
-/

namespace SupplicantWatch

/-- A section that a caller or the `i`-th reader goes through. -/
inductive Action (η : Type) where
  | register (interface : String) (kind : EventKind) (handler : η)
  | start (interface : String)
  /-- An attempt to connect crashes while a caller starts the monitoring. -/
  | startCrash (attempts : Nat)
  | stop (interface : String)
  | stopAll
  | setMonitoring (interface : String) (enabled : Bool)
  | broadcast (interface : Option String) (event : Event)
  | processLine (line : String)
  /-- A question about a caller's line crashes. -/
  | processCrash (commands : List String)
  /-- A caller begins or ends to wait for the reader. -/
  | join
  | check (i : Nat)
  | await (i : Nat)
  | receive (i : Nat) (line : String)
  | crash (i : Nat)
  | handle (i : Nat)
  /-- A question about a reader's line crashes. -/
  | handleCrash (i : Nat) (commands : List String)
  | giveUp (i : Nat)
deriving DecidableEq

namespace Monitor

variable {η σ κ : Type}

/-- What a section does: the calls that it makes and the state after it, if it can be gone
through. -/
def step (t : Transport σ κ) (m : Monitor η σ κ) :
    Action η → Option (List (Call η) × Monitor η σ κ)
  | .register interface kind handler => some ([], m.register interface kind handler)
  | .start interface => some (m.start t interface).2
  | .startCrash attempts => (m.connectCrash? t attempts).map fun m => ([], m)
  | .stop interface => some (m.stop interface)
  | .stopAll => some ([], m.stopAll)
  | .setMonitoring interface enabled => some ([], m.setMonitoring interface enabled)
  | .broadcast interface event => some (m.broadcast interface event, m)
  | .processLine line => some (m.processLine t line).2
  | .processCrash commands => some ([], m.breakOff t commands)
  | .join => some ([], m)
  | .check i =>
    match m.readers[i]? with
    | some .checking => some ([], m.check i)
    | _ => none
  | .await i =>
    match m.readers[i]? with
    | some .ready => some ([], m.await t i)
    | _ => none
  | .receive i line =>
    match m.readers[i]? with
    | some (.waiting source) => some ([], m.receive t i source line)
    | _ => none
  | .crash i =>
    match m.readers[i]? with
    | some (.waiting source) => some ([], m.crash t i source)
    | _ => none
  | .handle i =>
    match m.readers[i]? with
    | some (.holding line) => some (m.handle t i line)
    | _ => none
  | .handleCrash i commands =>
    match m.readers[i]? with
    | some (.holding _) => some ([], m.handleCrash t i commands)
    | _ => none
  | .giveUp i =>
    match m.readers[i]? with
    | some .crashed => some (m.giveUp t i)
    | _ => none

/-- The calls of some sections one after the other and the state after them, if all of them can be
gone through. -/
def steps (t : Transport σ κ) (m : Monitor η σ κ) :
    List (Action η) → Option (List (Call η) × Monitor η σ κ)
  | [] => some ([], m)
  | action :: actions => do
    let (calls, m) ← m.step t action
    let (calls', m) ← m.steps t actions
    return (calls ++ calls', m)

/-- The states that some interleaving leads to from a monitor before anything has happened. -/
inductive Reachable (t : Transport σ κ) (config : Config) (transport : σ) :
    Monitor η σ κ → Prop
  | new : Reachable t config transport (.new config transport)
  | step {m m' : Monitor η σ κ} {action : Action η} {calls : List (Call η)} :
    Reachable t config transport m → m.step t action = some (calls, m') →
    Reachable t config transport m'

end Monitor

end SupplicantWatch
