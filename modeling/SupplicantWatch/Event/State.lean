/-!
# Supplicant states

The states of a connection, in the order in which the supplicant numbers them.
-/

namespace SupplicantWatch

inductive SupplicantState where
  | disconnected
  | interfaceDisabled
  | inactive
  | scanning
  | authenticating
  | associating
  | associated
  | fourWayHandshake
  | groupHandshake
  | completed
  | dormant
  | uninitialized
  | invalid
deriving DecidableEq, Repr

namespace SupplicantState

/-- Every state with its name, in the order of their numbers from zero. -/
def table : List (SupplicantState × String) :=
  [(disconnected, "DISCONNECTED"), (interfaceDisabled, "INTERFACE_DISABLED"),
   (inactive, "INACTIVE"), (scanning, "SCANNING"), (authenticating, "AUTHENTICATING"),
   (associating, "ASSOCIATING"), (associated, "ASSOCIATED"),
   (fourWayHandshake, "FOUR_WAY_HANDSHAKE"), (groupHandshake, "GROUP_HANDSHAKE"),
   (completed, "COMPLETED"), (dormant, "DORMANT"), (uninitialized, "UNINITIALIZED"),
   (invalid, "INVALID")]

/-- The state with a number; every other number is invalid. -/
def ofIndex (index : Int) : SupplicantState :=
  if index < 0 then invalid else (table[index.toNat]?.map (·.1)).getD invalid

def name (state : SupplicantState) : String :=
  (table.lookup state).getD ""

end SupplicantState

end SupplicantWatch
