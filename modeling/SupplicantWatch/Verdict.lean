import SupplicantWatch.Event.Basic

/-!
# Verdicts

What a line comes to, before the receive errors are counted.
-/

namespace SupplicantWatch

/-- What a line comes to. -/
inductive Verdict where
  /-- The line reports an event. -/
  | event (event : Event)
  /-- The line is understood and there is nothing to deliver. -/
  | silent
  /-- A line could not be received. -/
  | receiveError
  /-- The supplicant has closed the connection. -/
  | closed
  /-- The line is of no known kind, or its payload could not be read. -/
  | unrecognized
deriving DecidableEq

/-- The event of a line, which is unrecognised without one. -/
def Verdict.ofEvent? : Option Event → Verdict
  | some e => .event e
  | none => .unrecognized

end SupplicantWatch
