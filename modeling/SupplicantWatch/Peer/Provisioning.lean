import SupplicantWatch.Text.Scan

/-!
# Provision discovery

A peer's question how a connection is to be authorised, or its answer.
-/

namespace SupplicantWatch.Peer

inductive ProvisioningKind where
  | pushButtonRequest
  | pushButtonResponse
  | enterPin
  | showPin
deriving DecidableEq, Repr

structure Provisioning where
  kind : ProvisioningKind
  deviceAddress : String
  pin : Option String
deriving DecidableEq, Repr

/-- The endings of the event word, in the order in which they are tried. -/
def ProvisioningKind.endings : List (String × ProvisioningKind) :=
  [("PBC-REQ", .pushButtonRequest), ("PBC-RESP", .pushButtonResponse), ("ENTER-PIN", .enterPin),
   ("SHOW-PIN", .showPin)]

/-- The kind that the ending of the event word tells. -/
def ProvisioningKind.ofEvent? (event : List Char) : Option ProvisioningKind :=
  (endings.find? fun ending => ending.1.toList.isSuffixOf event).map (·.2)

/-- The notice in a line: the event word, the address, and for a PIN to be shown the PIN. -/
def Provisioning.ofLine? (line : List Char) : Option Provisioning := do
  match Text.words line with
  | event :: address :: rest =>
    let kind ← ProvisioningKind.ofEvent? event
    let pin := if kind = .showPin then rest.head?.map String.ofList else none
    return ⟨kind, String.ofList address, pin⟩
  | _ => none

end SupplicantWatch.Peer
