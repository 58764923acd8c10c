import SupplicantWatch.Event.Basic

/-!
# Network management notices

Notices of Hotspot 2.0. They do not name the access point; the one that the interface last
connected to is filled in.
-/

namespace SupplicantWatch.Hotspot

/-- The event of a request to renew a subscription: after the name of the event a method and an
address on the web. -/
def remediationEvent (line : List Char) (bssid : MacAddress) : Except PayloadError Event :=
  match line.splitOn ' ' with
  | [_, method, url] =>
    match Text.int? 32 method with
    | some method => .ok (.management (.subscriptionRemediation bssid (String.ofList url) method))
    | none => .error (.management (String.ofList line))
  | _ => .error (.management (String.ofList line))

/-- The event of a warning that the access point will end the connection: after the name of the
event a code, a delay and an address on the web. The code 1 says that the whole network is meant. -/
def deauthEvent (line : List Char) (bssid : MacAddress) : Except PayloadError Event :=
  match line.splitOn ' ' with
  | [_, code, delay, url] =>
    match Text.int? 32 code, Text.int? 32 delay with
    | some code, some delay =>
      .ok (.management (.deauthImminent bssid (String.ofList url) (code = 1) delay))
    | _, _ => .error (.management (String.ofList line))
  | _ => .error (.management (String.ofList line))

end SupplicantWatch.Hotspot
