import SupplicantWatch.Config
import SupplicantWatch.Control
import SupplicantWatch.Credential
import SupplicantWatch.Hotspot.Anqp
import SupplicantWatch.Hotspot.Icon
import SupplicantWatch.Hotspot.Management
import SupplicantWatch.Peer.Notice
import SupplicantWatch.Text.Digit

/-!
# Classifying lines

A raw line is attributed to an interface and given to the first family whose rule it fits; that
family owns it, also if it then yields no event. The classifier counts the receive errors since the
last line that was accepted, and keeps for each interface the access point of its last connection.
-/

namespace SupplicantWatch

/-! ### Families -/

inductive Family where
  | control
  | wpsSuccess
  | wpsFail
  | wpsOverlap
  | wpsTimeout
  | peer
  | accessPoint
  | anqp
  | icon
  | remediation
  | deauth
  | credential
  | targetBssid
  | associatedBssid
  | authTimeout
  | wrongPassword
deriving DecidableEq, Repr

structure Rule where
  start : String
  ending : String := ""

def Rule.fits (rule : Rule) (line : List Char) : Bool :=
  rule.start.toList.isPrefixOf line && rule.ending.toList.isSuffixOf line

namespace Family

/-- The families with their rules, in the order in which they are tried. -/
def table : List (Rule × Family) :=
  [(⟨"CTRL-EVENT-", ""⟩, control),
   (⟨"WPS-SUCCESS", ""⟩, wpsSuccess),
   (⟨"WPS-FAIL", ""⟩, wpsFail),
   (⟨"WPS-OVERLAP-DETECTED", ""⟩, wpsOverlap),
   (⟨"WPS-TIMEOUT", ""⟩, wpsTimeout),
   (⟨"P2P", ""⟩, peer),
   (⟨"AP", ""⟩, accessPoint),
   (⟨"ANQP-QUERY-DONE", ""⟩, anqp),
   (⟨"RX-HS20-ICON", ""⟩, icon),
   (⟨"HS20-SUBSCRIPTION-REMEDIATION", ""⟩, remediation),
   (⟨"HS20-DEAUTH-IMMINENT-NOTICE", ""⟩, deauth),
   (⟨"CTRL-REQ-", ""⟩, credential),
   (⟨"Trying to associate with ", ""⟩, targetBssid),
   (⟨"Associated with ", ""⟩, associatedBssid),
   (⟨"Authentication with", "timed out."⟩, authTimeout),
   (⟨"WPA:", "pre-shared key may be incorrect"⟩, wrongPassword)]

def of? (line : List Char) : Option Family :=
  (table.find? fun row => row.1.fits line).map (·.2)

end Family

/-! ### Payloads of the small families -/

/-- The reason of a failed setup: the vendor's code decides before the configuration error. -/
def WpsFailure.ofCodes (configError vendorError : Int) : WpsFailure :=
  if vendorError = 1 then .tkipOnlyProhibited
  else if vendorError = 2 then .wepProhibited
  else if configError = 18 then .authFailure
  else if configError = 12 then .overlap
  -- Of two codes without a reason of their own the vendor's is told, unless it is zero.
  else if vendorError = 0 then .generic configError
  else .generic vendorError

/-- Takes a word and the digits after it, of any script, off a text; without them nothing is taken:
`(?:w(\d+))?`. -/
def optionalCode (w : String) (s : List Char) : List Char × List Char :=
  ((List.isPrefixOf? w.toList s).bind (Text.some? Text.isDecimalDigit)).getD ([], s)

/-- The configuration error and the vendor's code at the start of a text:
`WPS-FAIL msg=\d+(?: config_error=(\d+))?(?: reason=(\d+))?`. A code that is absent or no 32-bit
numeral counts as zero. -/
def wpsCodes? (s : List Char) : Option (Int × Int) := do
  let s ← List.isPrefixOf? "WPS-FAIL msg=".toList s
  let (_, s) ← Text.some? Text.isDecimalDigit s
  let (config, s) := optionalCode " config_error=" s
  let (vendor, _) := optionalCode " reason=" s
  return ((Text.int? 32 config).getD 0, (Text.int? 32 vendor).getD 0)

def wpsFailEvent (line : List Char) : Event :=
  let (config, vendor) := (Text.search wpsCodes? line).getD (0, 0)
  .wpsFail (.ofCodes config vendor)

def stationEvent? (line : List Char) : Option Event :=
  let event := Text.before ' ' line
  if event = "AP-STA-CONNECTED".toList then (Peer.Device.ofLine? line).map .stationConnected
  else if event = "AP-STA-DISCONNECTED".toList then
    (Peer.Device.ofLine? line).map .stationDisconnected
  else none

/-- The lower-case address that follows a phrase at the start of a line. With the phrases of the two
families together that is
`^(?:Trying to associate with|Associated with) ((?:[0-9a-f]{2}:){5}[0-9a-f]{2})`. -/
def addressAfter? (phrase : String) (line : List Char) : Option String := do
  let s ← List.isPrefixOf? phrase.toList line
  let (address, _) ← MacAddress.takeLower? s
  return String.ofList address

/-! ### The classifier -/

inductive Signal where
  | goOn
  /-- The connection is gone. -/
  | terminate
deriving DecidableEq, Repr

/-- What became of a line. An event without an interface is for every interface. -/
structure Classified where
  interface : Option String
  event : Option Event
  signal : Signal
deriving DecidableEq

structure Classifier where
  config : Config
  /-- The receive errors since the last line that was accepted, counted in 32 bits. -/
  receiveErrors : Nat
  /-- For each interface that has connected, the access point of its last connection, if the line
  showed one. -/
  lastConnected : Table (Option MacAddress)

namespace Classifier

def new (config : Config) : Classifier :=
  ⟨config, 0, .empty⟩

def lastBssid? (c : Classifier) (interface : String) : Option MacAddress :=
  (c.lastConnected.get? interface).join

def resetReceiveErrors (c : Classifier) : Classifier :=
  { c with receiveErrors := 0 }

def withoutLineEnd (raw : String) : List Char :=
  (raw.toList.reverse.dropWhile fun c => c == '\r' || c == '\n').reverse

/-- The interface that a line is about and the text that is about it. A line without a mark is about
the peer-to-peer interface, and so is one that names a group interface without handlers; a mark
without a space after it is malformed. -/
def resolve? (config : Config) (isRegistered : String → Bool) (line : List Char) :
    Option (String × List Char) :=
  match List.isPrefixOf? interfaceMark.toList line with
  | none => some (config.peerInterface, line)
  | some marked =>
    (Text.cut? ' ' marked).map fun (name, text) =>
      if !isRegistered (String.ofList name) && config.groupNameStart.toList.isPrefixOf name then
        (config.peerInterface, text)
      else (String.ofList name, text)

def verdictOf : Except PayloadError Event → Verdict
  | .ok event => .event event
  | .error _ => .unrecognized

/-- What a text of a family comes to, where `bssid` is the access point that the interface last
connected to. -/
def familyVerdict (chunkSize : Nat) (bssid : MacAddress) (text : List Char) :
    Family → Dialogue Verdict
  | .control => return Control.verdict text
  | .wpsSuccess => return .event .wpsSuccess
  | .wpsFail => return .event (wpsFailEvent text)
  | .wpsOverlap => return .event .wpsOverlap
  | .wpsTimeout => return .event .wpsTimeout
  | .peer => return .ofEvent? (Peer.eventOfLine? text)
  | .accessPoint => return .ofEvent? (stationEvent? text)
  | .anqp => verdictOf <$> Hotspot.anqpEvent text
  | .icon => verdictOf <$> Hotspot.iconEvent text chunkSize
  | .remediation => return verdictOf (Hotspot.remediationEvent text bssid)
  | .deauth => return verdictOf (Hotspot.deauthEvent text bssid)
  | .credential => return .ofEvent? (Credential.eventOfLine? text)
  | .targetBssid => return .event (.targetBssid (addressAfter? "Trying to associate with " text))
  | .associatedBssid => return .event (.associatedBssid (addressAfter? "Associated with " text))
  | .authTimeout => return .event (.authenticationFailure .timeout)
  | .wrongPassword => return .event (.authenticationFailure .wrongPassword)

/-- What a text about an interface comes to. Commands are about the same interface. -/
def verdict (c : Classifier) (interface : String) (text : List Char) : Dialogue Verdict :=
  match Family.of? text with
  | none => return .unrecognized
  | some family =>
    let bssid := (c.lastBssid? interface).getD .zero
    (familyVerdict c.config.iconChunkSize bssid text family).onInterface interface

def reportsConnection (text : List Char) : Bool :=
  Control.mark.isPrefixOf text && Control.kind? text == some .connected

/-- Keeps the access point of a text that reports a completed connection. -/
def remember (c : Classifier) (interface : String) (text : List Char) : Classifier :=
  if reportsConnection text then
    { c with
      lastConnected := c.lastConnected.insert interface (Control.connectedAddress? text) }
  else c

/-- Counts a verdict: an accepted line clears the receive errors, and one receive error more than
allowed ends the connection. -/
def settle (c : Classifier) (interface : String) : Verdict → Classified × Classifier
  | .event event => (⟨some interface, some event, .goOn⟩, c.resetReceiveErrors)
  | .silent => (⟨some interface, none, .goOn⟩, c.resetReceiveErrors)
  -- A line that is not understood neither clears the errors nor adds to them.
  | .unrecognized => (⟨some interface, none, .goOn⟩, c)
  | .closed => (⟨none, some .supplicantDisconnection, .terminate⟩, c)
  | .receiveError =>
    let c := { c with receiveErrors := (c.receiveErrors + 1) % UInt32.size }
    if c.receiveErrors ≤ c.config.maxReceiveErrors then (⟨some interface, none, .goOn⟩, c)
    else (⟨none, some .supplicantDisconnection, .terminate⟩, c)

/-- Classifies a line, where `isRegistered` tells which interfaces have handlers. -/
def classify (c : Classifier) (isRegistered : String → Bool) (raw : String) :
    Dialogue (Classified × Classifier) :=
  match resolve? c.config isRegistered (withoutLineEnd raw) with
  | none => return (⟨none, none, .goOn⟩, c)
  | some (interface, text) => do
    -- The address is kept before the line is read, and whatever comes of it.
    let c := c.remember interface text
    return c.settle interface (← c.verdict interface text)

end Classifier

end SupplicantWatch
