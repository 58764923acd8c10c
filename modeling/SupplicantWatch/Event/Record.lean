import SupplicantWatch.Event.Basic
import SupplicantWatch.Json

/-!
# Records of events

An event as a JSON object: a tag under `type`, and under `data` what the kind of event carries.
-/

namespace SupplicantWatch

namespace Json

def optString : Option String → Json :=
  ofOption string

def bytes (bs : List UInt8) : Json :=
  array (bs.map fun b => nat b.toNat)

end Json

namespace Peer

def Device.toJson (d : Device) : Json :=
  .object
    [("device_address", .string d.deviceAddress),
     ("primary_device_type", .optString d.primaryDeviceType),
     ("device_name", .optString d.deviceName), ("config_methods", .nat d.configMethods),
     ("device_capability", .nat d.deviceCapability), ("group_capability", .nat d.groupCapability)]

def Setup.name : Setup → String
  | pushButton => "push_button"
  | display => "display"
  | keypad => "keypad"

def Negotiation.toJson (n : Negotiation) : Json :=
  .object [("device_address", .string n.deviceAddress), ("wps_setup", .string n.setup.name)]

def Group.toJson (g : Group) : Json :=
  .object
    [("interface", .optString g.interface), ("is_group_owner", .bool g.isOwner),
     ("network_name", .optString g.networkName), ("frequency", .ofOption .nat g.frequency),
     ("psk", .optString g.psk), ("passphrase", .optString g.passphrase),
     ("owner_address", .optString g.ownerAddress), ("persistent", .bool g.persistent),
     ("network_id", .ofOption .int g.networkId), ("bssid", .optString g.bssid),
     ("reason", .optString g.reason)]

def ProvisioningKind.name : ProvisioningKind → String
  | pushButtonRequest => "pbc_request"
  | pushButtonResponse => "pbc_response"
  | enterPin => "enter_pin"
  | showPin => "show_pin"

def Provisioning.toJson (p : Provisioning) : Json :=
  .object
    [("kind", .string p.kind.name), ("device_address", .string p.deviceAddress),
     ("pin", .optString p.pin)]

def ServiceType.toJson : ServiceType → Json
  | all => .string "all"
  | bonjour => .string "bonjour"
  | upnp => .string "upnp"
  | vendorSpecific => .string "vendor_specific"
  | other code => .object [("other", .nat code.toNat)]

def ServiceAnswer.toJson (a : ServiceAnswer) : Json :=
  .object
    [("device_address", .string a.deviceAddress), ("service_type", a.serviceType.toJson),
     ("transaction_id", .nat a.transactionId.toNat), ("status", .nat a.status.toNat),
     ("data", .bytes a.data)]

end Peer

def StateChange.toJson (c : StateChange) : Json :=
  .object
    [("network_id", .int c.networkId), ("ssid", .optString c.ssid), ("bssid", .optString c.bssid),
     ("state", .string c.state.name)]

def WpsFailure.toJson : WpsFailure → Json
  | tkipOnlyProhibited => .string "tkip_only_prohibited"
  | wepProhibited => .string "wep_prohibited"
  | authFailure => .string "auth_failure"
  | overlap => .string "overlap_error"
  | generic code => .object [("generic", .object [("code", .int code)])]

def SimMethod.name : SimMethod → String
  | sim => "SIM"
  | aka => "AKA"

def SimRequest.toJson (r : SimRequest) : Json :=
  .object
    [("network_id", .int r.networkId), ("method", .string r.method.name), ("ssid", .string r.ssid),
     ("data", .array (r.data.map .string))]

/-- The end of an ANQP query as JSON; the elements stand in the order of their keys. -/
def AnqpResult.toJson (r : AnqpResult) : Json :=
  .object
    [("bssid", .string r.bssid.render),
     ("elements",
      .ofOption (fun t => .object (t.toList.map fun e => (e.1, .string e.2))) r.elements)]

def Icon.toJson (i : Icon) : Json :=
  .object
    [("bssid", .string i.bssid.render), ("file_name", .string i.fileName), ("size", .nat i.size),
     ("data", .ofOption .bytes i.data)]

def ManagementNotice.toJson : ManagementNotice → Json
  | subscriptionRemediation bssid url method =>
    .object
      [("kind", .string "subscription_remediation"), ("bssid", .string bssid.render),
       ("url", .string url), ("method", .int method)]
  | deauthImminent bssid url ess delaySecs =>
    .object
      [("kind", .string "deauth_imminent"), ("bssid", .string bssid.render), ("url", .string url),
       ("ess", .bool ess), ("delay_secs", .int delaySecs)]

namespace Event

def tag : Event → String
  | supplicantConnection => "supplicant_connection"
  | supplicantDisconnection => "supplicant_disconnection"
  | networkConnection .. => "network_connection"
  | networkDisconnection .. => "network_disconnection"
  | scanResults => "scan_results"
  | scanFailed => "scan_failed"
  | supplicantStateChange .. => "supplicant_state_change"
  | authenticationFailure .. => "authentication_failure"
  | wpsSuccess => "wps_success"
  | wpsFail .. => "wps_fail"
  | wpsOverlap => "wps_overlap"
  | wpsTimeout => "wps_timeout"
  | driverHung => "driver_hung"
  | ssidTempDisabled .. => "ssid_temp_disabled"
  | ssidReenabled .. => "ssid_reenabled"
  | requestIdentity .. => "request_identity"
  | requestSimAuth .. => "request_sim_auth"
  | targetBssid .. => "target_bssid"
  | associatedBssid .. => "associated_bssid"
  | associationRejection .. => "association_rejection"
  | stationConnected .. => "ap_sta_connected"
  | stationDisconnected .. => "ap_sta_disconnected"
  | anqpDone .. => "anqp_done"
  | iconDone .. => "icon_done"
  | management .. => "wnm"
  | peerFound .. => "p2p_device_found"
  | peerLost .. => "p2p_device_lost"
  | findStopped => "p2p_find_stopped"
  | negotiationRequest .. => "p2p_go_negotiation_request"
  | negotiationSuccess => "p2p_go_negotiation_success"
  | negotiationFailure .. => "p2p_go_negotiation_failure"
  | groupFormationSuccess => "p2p_group_formation_success"
  | groupFormationFailure .. => "p2p_group_formation_failure"
  | groupStarted .. => "p2p_group_started"
  | groupRemoved .. => "p2p_group_removed"
  | invitationReceived .. => "p2p_invitation_received"
  | invitationResult .. => "p2p_invitation_result"
  | provisioningPushButtonRequest .. => "p2p_prov_disc_pbc_request"
  | provisioningPushButtonResponse .. => "p2p_prov_disc_pbc_response"
  | provisioningEnterPin .. => "p2p_prov_disc_enter_pin"
  | provisioningShowPin .. => "p2p_prov_disc_show_pin"
  | provisioningFailure => "p2p_prov_disc_failure"
  | serviceDiscoveryResponse .. => "p2p_service_discovery_response"

def data? : Event → Option Json
  | networkConnection networkId bssid =>
    some (.object [("network_id", .int networkId), ("bssid", .optString bssid)])
  | networkDisconnection bssid reason locallyGenerated =>
    some (.object
      [("bssid", .string bssid), ("reason", .int reason),
       ("locally_generated", .bool locallyGenerated)])
  | supplicantStateChange change => some change.toJson
  | authenticationFailure reason => some (.object [("reason", .string reason.name)])
  | wpsFail reason => some reason.toJson
  | ssidTempDisabled networkId detail | ssidReenabled networkId detail =>
    some (.object [("network_id", .int networkId), ("detail", .optString detail)])
  | requestIdentity networkId ssid =>
    some (.object [("network_id", .int networkId), ("ssid", .optString ssid)])
  | requestSimAuth request => some request.toJson
  | targetBssid bssid | associatedBssid bssid => some (.object [("bssid", .optString bssid)])
  | associationRejection bssid status =>
    some (.object [("bssid", .string bssid), ("status", .int status)])
  | stationConnected device | stationDisconnected device | peerFound device | peerLost device =>
    some device.toJson
  | anqpDone result => some result.toJson
  | iconDone icon => some icon.toJson
  | management notice => some notice.toJson
  | negotiationRequest negotiation => some negotiation.toJson
  | negotiationFailure status | groupFormationFailure status | invitationResult status =>
    some (.string status.name)
  | groupStarted group | groupRemoved group | invitationReceived group => some group.toJson
  | provisioningPushButtonRequest notice | provisioningPushButtonResponse notice
  | provisioningEnterPin notice | provisioningShowPin notice => some notice.toJson
  | serviceDiscoveryResponse answers => some (.array (answers.map (·.toJson)))
  | supplicantConnection | supplicantDisconnection | scanResults | scanFailed | wpsSuccess
  | wpsOverlap | wpsTimeout | driverHung | findStopped | negotiationSuccess
  | groupFormationSuccess | provisioningFailure => none

def jsonFields (event : Event) : List (String × Json) :=
  ("type", .string event.tag) :: (event.data?.map fun data => ("data", data)).toList

def toJson (event : Event) : Json :=
  .object event.jsonFields

/-- The record of an event that was delivered for an interface. -/
def recordJson (interface : String) (event : Event) : Json :=
  .object (("interface", .string interface) :: ("code", .nat event.kind.code) :: event.jsonFields)

/-- The one line that records an event that was delivered for an interface. -/
def record (interface : String) (event : Event) : String :=
  (event.recordJson interface).render

end Event

end SupplicantWatch
