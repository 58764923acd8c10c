import SupplicantWatch.Ssid
import SupplicantWatch.Verdict

/-!
# Control events

The lines that begin with `CTRL-EVENT-`: connection and state of the supplicant, rejected
associations, scans, and the notice that ends the connection. Each kind reads its own part of the
line; where a shape is searched for, the first place where it fits counts.
-/

namespace SupplicantWatch.Control

def mark : List Char :=
  "CTRL-EVENT-".toList

inductive Kind where
  | connected
  | disconnected
  | stateChange
  | linkSpeed
  | terminating
  | driverState
  | eapFailure
  | assocReject
  | tempDisabled
  | reenabled
  | bssAdded
  | bssRemoved
  | scanResults
  | scanFailed
deriving DecidableEq, Repr

def Kind.table : List (String × Kind) :=
  [("CONNECTED", .connected), ("DISCONNECTED", .disconnected), ("STATE-CHANGE", .stateChange),
   ("LINK-SPEED", .linkSpeed), ("TERMINATING", .terminating), ("DRIVER-STATE", .driverState),
   ("EAP-FAILURE", .eapFailure), ("ASSOC-REJECT", .assocReject),
   ("SSID-TEMP-DISABLED", .tempDisabled), ("SSID-REENABLED", .reenabled),
   ("BSS-ADDED", .bssAdded), ("BSS-REMOVED", .bssRemoved), ("SCAN-RESULTS", .scanResults),
   ("SCAN-FAILED", .scanFailed)]

/-- The name of the event in a line of the family: what stands between the mark and a space. -/
def nameOf (line : List Char) : List Char :=
  Text.before ' ' (line.drop mark.length)

def kind? (line : List Char) : Option Kind :=
  (Kind.table.find? fun row => row.1.toList = nameOf line).map (·.2)

/-- The text after the first space, all of it if there is none. -/
def afterSpace (line : List Char) : List Char :=
  ((Text.cut? ' ' line).map (·.2)).getD line

/-- The text after the first dash between spaces, all of it if there is none. -/
def afterDash (line : List Char) : List Char :=
  ((Text.find? " - ".toList line).map (·.2)).getD line

/-! ### Connections -/

/-- The network identifier in a bracket at the start of a text: ` \[id=([0-9]+) `. -/
def networkMark? (s : List Char) : Option (List Char) := do
  let s ← List.isPrefixOf? " [id=".toList s
  let (digits, s) ← Text.some? Char.isDigit s
  let _ ← List.isPrefixOf? [' '] s
  return digits

/-- Takes a lower-case address and the space behind it off a text. -/
def spacedAddress? (s : List Char) : Option (List Char × List Char) := do
  let (address, s) ← MacAddress.takeLower? s
  return (address, ← List.isPrefixOf? [' '] s)

/-- The first lower-case address in a line that a space follows, and the network identifier in the
last bracket behind it. On one line that is the first match of the expression
`((?:[0-9a-f]{2}:){5}[0-9a-f]{2}) .* \[id=([0-9]+) `, in which `.*` takes as much as it can. If no
bracket stands behind the first address, then none stands behind a later one. -/
def connection? (line : List Char) : Option (List Char × Int) := do
  let (address, s) ← Text.search spacedAddress? line
  let digits ← Text.searchLast networkMark? s
  return (address, (Text.int? 32 digits).getD (-1))

/-- The event of a completed connection, of which the first line that shows one tells. -/
def connectionEvent (payload : List Char) : Event :=
  -- The point of the expression fits no line feed, so each line is searched by itself.
  match (payload.splitOn '\n').findSome? connection? with
  | some (address, id) => .networkConnection id (some (String.ofList address))
  | none => .networkConnection (-1) none

/-- The address in the phrase that reports a completed connection, in any spelling. -/
def connectedAddress? (line : List Char) : Option MacAddress := do
  let (_, rest) ← Text.find? "Connection to ".toList line
  let (address, _) ← Text.find? " completed".toList rest
  MacAddress.ofChars? address

/-- An address at the start of a text with the reason and the origin of a disconnection:
`((?:[0-9a-f]{2}:){5}[0-9a-f]{2}) +reason=([0-9]+) +locally_generated=([0-1])`. -/
def disconnection? (s : List Char) : Option (List Char × Int × Bool) := do
  let (address, s) ← MacAddress.takeLower? s
  let (_, s) ← Text.some? (· == ' ') s
  let s ← List.isPrefixOf? "reason=".toList s
  let (digits, s) ← Text.some? Char.isDigit s
  let (_, s) ← Text.some? (· == ' ') s
  let s ← List.isPrefixOf? "locally_generated=".toList s
  let flag ← s.head?
  if flag = '0' ∨ flag = '1' then
    return (address, (Text.int? 32 digits).getD (-1), flag = '1')
  else none

def disconnectionEvent (payload : List Char) : Event :=
  match Text.search disconnection? payload with
  | some (address, reason, localOrigin) =>
    .networkDisconnection (String.ofList address) reason localOrigin
  | none => .networkDisconnection "" 0 false

/-- The status code at the start of a text: `status_code=([0-9]+)`. -/
def statusCode? (s : List Char) : Option Int := do
  let s ← List.isPrefixOf? "status_code=".toList s
  let (digits, _) ← Text.some? Char.isDigit s
  return (Text.int? 32 digits).getD (-1)

/-- An address at the start of a text and the status code behind it. -/
def addressedStatus? (s : List Char) : Option (List Char × Int) := do
  let (address, s) ← MacAddress.takeLower? s
  let (_, s) ← Text.some? (· == ' ') s
  return (address, ← statusCode? s)

/-- The status of a rejected association at the start of a text, with the address before it if there
is one: `(?:((?:[0-9a-f]{2}:){5}[0-9a-f]{2}) +)?status_code=([0-9]+)`. -/
def rejection? (s : List Char) : Option (List Char × Int) :=
  (addressedStatus? s).or ((statusCode? s).map fun status => ([], status))

def rejectionEvent (payload : List Char) : Event :=
  match Text.search rejection? payload with
  | some (address, status) => .associationRejection (String.ofList address) status
  | none => .associationRejection "" (-1)

/-! ### State changes -/

/-- The values that words with exactly one equals sign give to a key, in order. -/
def valuesOf (key : String) (payload : List Char) : List (List Char) :=
  (payload.splitOn ' ').filterMap fun word =>
    match word.splitOn '=' with
    | [name, value] => if name = key.toList then some value else none
    | _ => none

/-- The front of a text up to the first place where one of the words begins. -/
def beforeAny (ws : List (List Char)) : List Char → List Char
  | [] => []
  | c :: s => if ws.any (·.isPrefixOf (c :: s)) then [] else c :: beforeAny ws s

/-- The written network name in a payload: what follows the last `SSID=` at the start or after a
space, up to the next key of a state change. -/
def writtenSsid? (payload : List Char) : Option (List Char) :=
  -- The space in front lets a key at the start of the payload count.
  (Text.searchLast (List.isPrefixOf? " SSID=".toList) (' ' :: payload)).map
    (beforeAny [" BSSID=".toList, " id=".toList, " state=".toList])

/-- The state change in a payload. Of several numerals for a key the last counts, and without one
for the state there is no change. -/
def stateChange? (payload : List Char) : Option StateChange := do
  -- A value that is no numeral is passed over, and does not hide an earlier one that is.
  let index ← ((valuesOf "state" payload).filterMap (Text.int? 64)).getLast?
  return {
    networkId := ((valuesOf "id" payload).filterMap (Text.int? 32)).getLast?.getD (-1)
    ssid := (writtenSsid? payload).map Ssid.decode
    bssid := (valuesOf "BSSID" payload).getLast?.map String.ofList
    state := .ofIndex index }

/-! ### Disabled networks -/

/-- The network identifier in the details of a disabled network: the digits at the start of the last
`id=` word, zero if they are no 32-bit numeral, -1 without such a word. -/
def detailId (detail : List Char) : Int :=
  match ((detail.splitOn ' ').filterMap (List.isPrefixOf? "id=".toList)).getLast? with
  | some value => (Text.int? 32 (value.takeWhile Char.isDigit)).getD 0
  | none => -1

/-- The event of a network that is disabled or enabled again, from the details after the name. -/
def disabledEvent (event : Int → Option String → Event) (line : List Char) : Event :=
  match Text.cut? ' ' line with
  | some (_, detail) => event (detailId detail) (some (String.ofList detail))
  | none => event (-1) none

/-! ### Verdicts -/

def Kind.verdict (line : List Char) : Kind → Verdict
  | connected => .event (connectionEvent (afterDash line))
  | disconnected => .event (disconnectionEvent (afterDash line))
  | stateChange =>
    match stateChange? (afterSpace line) with
    | some change => .event (.supplicantStateChange change)
    | none => .silent
  | driverState =>
    if (line.splitOn ' ')[1]? = some "HANGED".toList then .event .driverHung else .silent
  -- Only a failed receive may pass, every other reason ends the connection.
  | terminating =>
    if "recv error".toList.isPrefixOf (afterDash line) then .receiveError else .closed
  | eapFailure =>
    if "EAP authentication failed".toList.isPrefixOf (afterSpace line) then
      .event (.authenticationFailure .eapFailure)
    else .silent
  | assocReject => .event (rejectionEvent (afterDash line))
  | tempDisabled => .event (disabledEvent .ssidTempDisabled line)
  | reenabled => .event (disabledEvent .ssidReenabled line)
  | scanResults => .event .scanResults
  | scanFailed => .event .scanFailed
  | linkSpeed | bssAdded | bssRemoved => .silent

def verdict (line : List Char) : Verdict :=
  match kind? line with
  | some kind => kind.verdict line
  | none => .unrecognized

end SupplicantWatch.Control
