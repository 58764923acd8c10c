import SupplicantWatch.Fields
import SupplicantWatch.MacAddress

/-!
# Peer devices

The descriptor of a peer, as device and access point station lines carry it.
-/

namespace SupplicantWatch.Peer

/-- The descriptor of a peer. The address is kept as it was written. -/
structure Device where
  deviceAddress : String
  primaryDeviceType : Option String
  deviceName : Option String
  configMethods : Nat
  deviceCapability : Nat
  groupCapability : Nat
deriving DecidableEq, Repr

/-- The first word after the first one that is a MAC address, as it was written. -/
def firstAddress? (line : List Char) : Option String :=
  (((Text.words line).drop 1).find? fun word => (MacAddress.ofChars? word).isSome).map String.ofList

/-- The descriptor in a line: its address is the field `p2p_dev_addr`, else the field `dev_addr`,
else the first address word. -/
def Device.ofLine? (line : List Char) : Option Device := do
  let fields := Fields.ofLine line
  let address ← ((fields.get? "p2p_dev_addr").or (fields.get? "dev_addr")).or (firstAddress? line)
  return {
    deviceAddress := address
    primaryDeviceType := fields.get? "pri_dev_type"
    deviceName := fields.get? "name"
    configMethods := fields.hexWord "config_methods"
    deviceCapability := fields.hexWord "dev_capab"
    groupCapability := fields.hexWord "group_capab" }

end SupplicantWatch.Peer
