import SupplicantWatch.Text.Quoted

/-!
# Payload errors

Why the payload of a recognised line could not be read. Such a line is dropped and reading goes on.
-/

namespace SupplicantWatch

inductive PayloadError where
  /-- The text is no MAC address. -/
  | malformedMac (text : String)
  /-- An ANQP notification lacks its address or its result. -/
  | anqpNotification (line : String)
  /-- An icon notification has this many segments instead of four. -/
  | iconSegments (count : Nat)
  /-- The text is no numeral for the field. -/
  | badNumeral (field text : String)
  /-- A network management notice has the wrong shape or a bad numeral. -/
  | management (line : String)
deriving DecidableEq, Repr

def PayloadError.message : PayloadError → String
  | .malformedMac text => "malformed MAC address: " ++ Text.quoted text
  | .anqpNotification line => "unexpected ANQP result notification: " ++ line
  | .iconSegments count =>
    "incorrect number of segments in icon event: expected 4, got " ++ toString count
  | .badNumeral field text => "bad numeral for " ++ field ++ ": " ++ Text.quoted text
  | .management line => "bad WNM event: " ++ line

end SupplicantWatch
