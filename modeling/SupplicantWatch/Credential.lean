import SupplicantWatch.Event.Basic

/-!
# Credential requests

Lines by which the supplicant asks for an identity or for SIM authentication. The shapes are
searched for in the text after the mark of the family, at the first place where one fits.
-/

namespace SupplicantWatch.Credential

def mark : List Char :=
  "CTRL-REQ-".toList

/-- The network identifier in some digits, -1 if they are no 32-bit numeral. -/
def networkId (digits : List Char) : Int :=
  (Text.int? 32 digits).getD (-1)

/-- The name of the network at the start of a text: all of its first line, which is not empty,
`(.+)`. -/
def ssid? (s : List Char) : Option (List Char) :=
  (Text.some? (· != '\n') s).map (·.1)

/-- Takes groups, each a colon and lower-case hexadecimal digits, off a text, as many as there are:
`((?::[0-9a-f]+)*)`. -/
def hexGroups (s : List Char) : List (List Char) × List Char :=
  match s with
  | [] => ([], [])
  | c :: s' =>
    let group := s'.takeWhile Text.isLowerHex
    if c = ':' ∧ group ≠ [] then
      let (groups, rest) := hexGroups (s'.drop group.length)
      (group :: groups, rest)
    else ([], c :: s')
termination_by s.length
decreasing_by
  simp only [List.length_cons, List.length_drop]
  omega

/-- An identity request, its network identifier and the name of the network:
`IDENTITY-([0-9]+):Identity needed for SSID (.+)`. -/
def identity? (s : List Char) : Option (Int × List Char) := do
  let s ← List.isPrefixOf? "IDENTITY-".toList s
  let (digits, s) ← Text.some? Char.isDigit s
  let s ← List.isPrefixOf? ":Identity needed for SSID ".toList s
  return (networkId digits, ← ssid? s)

/-- A request for GSM authentication with its challenges, of which there is at least one:
`SIM-([0-9]*):GSM-AUTH((?::[0-9a-f]+)+) needed for SSID (.+)`. -/
def gsm? (s : List Char) : Option SimRequest := do
  let s ← List.isPrefixOf? "SIM-".toList s
  -- The identifier may be empty here, unlike in an identity request.
  let digits := s.takeWhile Char.isDigit
  let s ← List.isPrefixOf? ":GSM-AUTH".toList (s.dropWhile Char.isDigit)
  let (groups, s) := hexGroups s
  if groups = [] then none
  let s ← List.isPrefixOf? " needed for SSID ".toList s
  let ssid ← ssid? s
  return ⟨networkId digits, .sim, String.ofList ssid, groups.map String.ofList⟩

/-- A request for UMTS authentication with its challenge and its token:
`SIM-([0-9]*):UMTS-AUTH:([0-9a-f]+):([0-9a-f]+) needed for SSID (.+)`. -/
def umts? (s : List Char) : Option SimRequest := do
  let s ← List.isPrefixOf? "SIM-".toList s
  let digits := s.takeWhile Char.isDigit
  let s ← List.isPrefixOf? ":UMTS-AUTH:".toList (s.dropWhile Char.isDigit)
  let (rand, s) ← Text.some? Text.isLowerHex s
  let s ← List.isPrefixOf? [':'] s
  let (autn, s) ← Text.some? Text.isLowerHex s
  let s ← List.isPrefixOf? " needed for SSID ".toList s
  let ssid ← ssid? s
  return ⟨networkId digits, .aka, String.ofList ssid, [String.ofList rand, String.ofList autn]⟩

/-- The event of a credential request. An identity request of another shape still yields an event,
with the identifier -2 and no network; SIM requests of another shape and requests for anything else
yield none. -/
def eventOfLine? (line : List Char) : Option Event := do
  let request ← List.isPrefixOf? mark line
  if "IDENTITY".toList.isPrefixOf request then
    match Text.search identity? request with
    | some (id, ssid) => return .requestIdentity id (some (String.ofList ssid))
    | none => return .requestIdentity (-2) none
  else if "SIM".toList.isPrefixOf request then
    -- All of the text is searched for the one shape before the other is tried anywhere.
    let sim ← (Text.search gsm? request).or (Text.search umts? request)
    return .requestSimAuth sim
  else none

end SupplicantWatch.Credential
