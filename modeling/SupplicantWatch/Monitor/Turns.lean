import SupplicantWatch.Monitor.Basic

/-!
# Taking turns with the reader

The interleaving in which a reader goes on as far as it can after every section of a caller, so that
it waits for a line or has ended, and lines are handed to it one at a time.
-/

namespace SupplicantWatch.Monitor

variable {η σ κ : Type}

/-- Lets the reader go on until it waits or has ended. -/
def settle (t : Transport σ κ) (m : Monitor η σ κ) : Monitor η σ κ :=
  match m.readers.findIdx? Reader.isChecking with
  -- There is never more than one reader, so that the first one found is the one.
  | some i => if m.connected then (m.check i).await t i else m.check i
  | none => m

def isWaiting (m : Monitor η σ κ) : Bool :=
  m.readers.any Reader.isWaiting

/-- Hands one line to the waiting reader, or makes its wait crash, and lets it deal with that. -/
def feed? (t : Transport σ κ) (m : Monitor η σ κ) (read : Option String) :
    Option (List (Call η) × Monitor η σ κ) := do
  let i ← m.readers.findIdx? Reader.isWaiting
  let .waiting source ← m.readers[i]? | none
  let (calls, m) := match read with
    | some line => (m.receive t i source line).handle t i line
    | none => (m.crash t i source).giveUp t i
  return (calls, m.settle t)

/-- Hands some reads to the waiting reader as long as there is one; returns how many it took. -/
def feedAll (t : Transport σ κ) (m : Monitor η σ κ) :
    List (Option String) → Nat × List (Call η) × Monitor η σ κ
  | [] => (0, [], m)
  | read :: reads =>
    match m.feed? t read with
    | none => (0, [], m)
    | some (calls, m) =>
      let (count, calls', m) := feedAll t m reads
      (count + 1, calls ++ calls', m)

end SupplicantWatch.Monitor
