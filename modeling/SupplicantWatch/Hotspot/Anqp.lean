import SupplicantWatch.Dialogue
import SupplicantWatch.Event.Basic

/-!
# ANQP queries

When a query has ended well, its elements are asked for with the address of the access point. Any
other end is an event too, so that handlers learn that the query is over.
-/

namespace SupplicantWatch.Hotspot

/-- What stands between the first occurrence of a marker and the next space. -/
def valueAfter? (marker : String) (line : List Char) : Option (List Char) :=
  (Text.find? marker.toList line).map fun (_, rest) => Text.before ' ' rest

/-- Whether two texts are equal when upper and lower case of ASCII letters count as one. -/
def equalsIgnoringCase (s t : List Char) : Bool :=
  s.map Char.toLower = t.map Char.toLower

/-- Whether the key names an element of ANQP or of Hotspot 2.0. -/
def isElementKey (key : List Char) : Bool :=
  "anqp_".toList.isPrefixOf key || "hs20_".toList.isPrefixOf key

/-- The elements in a description of an access point: of its `key=value` lines those whose key names
an element; of several lines with one key the last counts. -/
def elements (description : String) : Table String :=
  .ofList <| ((Text.lines description.toList).filterMap (Text.cut? '=')).filterMap
    fun (key, value) =>
      if isElementKey key then some (String.ofList key, String.ofList value) else none

def describeCommand (bssid : MacAddress) : String :=
  "BSS " ++ bssid.render

def anqpEvent (line : List Char) : Dialogue (Except PayloadError Event) :=
  match valueAfter? "addr=" line, valueAfter? "result=" line with
  | some address, some result =>
    match MacAddress.ofChars? address with
    -- With a bad address, too, the query is over, and handlers wait to learn that.
    | none => return .ok (.anqpDone ⟨.zero, none⟩)
    | some bssid =>
      if !bssid.isZero && equalsIgnoringCase result "success".toList then do
        let description ← Dialogue.query (describeCommand bssid)
        return .ok (.anqpDone ⟨bssid, description.map elements⟩)
      else return .ok (.anqpDone ⟨bssid, none⟩)
  | _, _ => return .error (.anqpNotification (String.ofList line))

end SupplicantWatch.Hotspot
