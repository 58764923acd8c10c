import SupplicantWatch.Fields
import SupplicantWatch.MacAddress

/-!
# Group owner negotiation

A peer's request to negotiate who owns the group, with the way in which it wants to be set up.
-/

namespace SupplicantWatch.Peer

/-- How a peer wants the connection to be authorised. -/
inductive Setup where
  | pushButton
  | display
  | keypad
deriving DecidableEq, Repr

structure Negotiation where
  deviceAddress : String
  setup : Setup
deriving DecidableEq, Repr

def Setup.ofPasswordId : Option String → Setup
  | some "1" => .keypad
  | some "5" => .display
  | _ => .pushButton

/-- The request in a line whose second word is a MAC address. -/
def Negotiation.ofLine? (line : List Char) : Option Negotiation := do
  let address ← (Text.words line)[1]?
  let _ ← MacAddress.ofChars? address
  return ⟨String.ofList address, .ofPasswordId ((Fields.ofLine line).get? "dev_passwd_id")⟩

end SupplicantWatch.Peer
