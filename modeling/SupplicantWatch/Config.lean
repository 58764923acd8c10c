/-!
# Configuration of the monitor
-/

namespace SupplicantWatch

structure Config where
  /-- The interface that owns the lines that name none, and those of group interfaces. -/
  peerInterface : String := "p2p0"
  /-- How the names of the interfaces begin that come and go with groups. -/
  groupNameStart : String := "p2p-"
  connectAttempts : Nat := 5
  connectRetryMillis : Nat := 1000
  /-- The number of receive errors in a row that the connection survives. -/
  maxReceiveErrors : Nat := 10
  iconChunkSize : Nat := 1400
  logCapacity : Nat := 256
  verbose : Bool := false
deriving DecidableEq, Repr, Inhabited

end SupplicantWatch
