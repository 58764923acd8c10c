/-!
# The log of lines

The last lines that were received, as many as there is room for. A full log gives up its oldest line
for a new one, so it never holds more than that; a log without room takes none.
-/

namespace SupplicantWatch

/-- The entries of the lines that were received of late, the oldest first. -/
structure LineLog where
  capacity : Nat
  entries : List String := []
  /-- There are never more entries than there is room for. -/
  length_le : entries.length ≤ capacity := by exact Nat.zero_le _
deriving DecidableEq, Repr

namespace LineLog

def entry (line : String) : String :=
  "Event [" ++ line ++ "]"

/-- The entries that stay when one more is to come. -/
def kept (log : LineLog) : List String :=
  if log.entries.length = log.capacity then log.entries.tail else log.entries

theorem length_kept_lt (log : LineLog) (h : log.capacity ≠ 0) : log.kept.length < log.capacity := by
  have hle := log.length_le
  unfold kept
  split
  · rw [List.length_tail]
    omega
  · omega

/-- The log after one more line: a full log evicts its oldest entry for it, and one without room
stays as it is. -/
def record (log : LineLog) (line : String) : LineLog :=
  if h : log.capacity = 0 then log
  else
    { log with
      entries := log.kept ++ [entry line]
      length_le := by
        rw [List.length_append]
        exact log.length_kept_lt h }

def recordAll (log : LineLog) (lines : List String) : LineLog :=
  lines.foldl record log

theorem capacity_record (log : LineLog) (line : String) :
    (log.record line).capacity = log.capacity := by
  unfold record
  split <;> rfl

end LineLog

end SupplicantWatch
