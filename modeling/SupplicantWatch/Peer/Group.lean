import SupplicantWatch.Fields

/-!
# Peer-to-peer groups

What is said about a group when it starts, when it is removed, and when a peer invites to it.
-/

namespace SupplicantWatch.Peer

structure Group where
  interface : Option String := none
  isOwner : Bool := false
  networkName : Option String := none
  frequency : Option Nat := none
  psk : Option String := none
  passphrase : Option String := none
  ownerAddress : Option String := none
  persistent : Bool := false
  /-- The stored network that an invitation offers. -/
  networkId : Option Int := none
  bssid : Option String := none
  reason : Option String := none
deriving DecidableEq, Repr

namespace Group

/-- The group of a line about its start or its removal, of which the second word is the interface
and the third the role. -/
def ofChange (line interface role : List Char) : Group :=
  let fields := Fields.ofLine line
  { interface := some (String.ofList interface)
    isOwner := role = "GO".toList
    networkName := fields.get? "ssid"
    frequency := (fields.get? "freq").bind fun value => Text.word? 10 32 value.toList
    psk := fields.get? "psk"
    passphrase := fields.get? "passphrase"
    ownerAddress := fields.get? "go_dev_addr"
    -- The mark is looked for among the words of the line, of which some may be in quotes.
    persistent := (Text.words line).contains "[PERSISTENT]".toList
    reason := fields.get? "reason" }

/-- The group of an invitation; it is persistent if it names a stored network. -/
def ofInvitation (line : List Char) : Group :=
  let fields := Fields.ofLine line
  let networkId := (fields.get? "persistent").bind fun value => Text.int? 32 value.toList
  { ownerAddress := (fields.get? "go_dev_addr").or (fields.get? "sa")
    bssid := fields.get? "bssid"
    persistent := networkId.isSome
    networkId }

/-- The group of a line of at least three words. -/
def ofLine? (line : List Char) : Option Group :=
  match Text.words line with
  | event :: interface :: role :: _ =>
    if "P2P-GROUP".toList.isPrefixOf event then some (ofChange line interface role)
    else if event = "P2P-INVITATION-RECEIVED".toList then some (ofInvitation line)
    else none
  | _ => none

end Group

end SupplicantWatch.Peer
