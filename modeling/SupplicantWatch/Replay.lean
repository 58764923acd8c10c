import SupplicantWatch.Capture
import SupplicantWatch.Event.Record
import SupplicantWatch.Monitor.Turns

/-!
# Replaying a capture

A monitor whose lines come from a capture and whose commands are never answered, with a printer that
hears every kind of event on one interface.
-/

namespace SupplicantWatch.Replay

/-- The way to a supplicant that connects at once and never answers. -/
def transport : Transport Unit Unit where
  connect _ := (true, ())
  query := Daemon.silent
  disconnect _ := ()
  take _ := ((), ())
  release _ _ := ()

/-- A monitor with its printer, before it starts. A printer is known by its interface. -/
def monitor (config : Config) (interface : String) : Monitor String Unit Unit :=
  (Monitor.new config ()).registerAll interface interface

/-- Hands the lines of a capture to the reader until it has ended; the line at the end of the
capture ends it. -/
def readAll (interface : String) (c : Capture) (m : Monitor String Unit Unit) :
    List (Call String) × Monitor String Unit Unit :=
  match m.feed? transport (some (c.read interface).1) with
  | none => ([], m)
  | some (calls, m) =>
    -- Then the line that has been read is the one at the end.
    if _h : c.rest = [] then (calls, m)
    else
      let (calls', m) := readAll interface (c.read interface).2 m
      (calls ++ calls', m)
termination_by c.rest.length
decreasing_by exact Capture.length_rest_read_lt interface _h

/-- The calls of the printer in a replay from the start to the end of the reader, whether it could
be started, and the monitor afterwards. -/
def run (config : Config) (interface : String) (c : Capture) :
    Except MonitorError Unit × List (Call String) × Monitor String Unit Unit :=
  let (result, calls, m) := (monitor config interface).start transport interface
  let (calls', m) := readAll interface c (m.settle transport)
  (result, calls ++ calls', m)

end SupplicantWatch.Replay
