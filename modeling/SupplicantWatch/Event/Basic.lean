import SupplicantWatch.Event.Kind
import SupplicantWatch.Event.State
import SupplicantWatch.MacAddress
import SupplicantWatch.Peer.Device
import SupplicantWatch.Peer.Group
import SupplicantWatch.Peer.Negotiation
import SupplicantWatch.Peer.Provisioning
import SupplicantWatch.Peer.Service
import SupplicantWatch.Peer.Status
import SupplicantWatch.Table

/-!
# Events

What the supplicant reports, apart from the line that reported it.
-/

namespace SupplicantWatch

structure StateChange where
  networkId : Int
  ssid : Option String
  bssid : Option String
  state : SupplicantState
deriving DecidableEq, Repr

inductive AuthFailure where
  | unspecified
  | timeout
  | wrongPassword
  | eapFailure
deriving DecidableEq, Repr

/-- Why a Wi-Fi protected setup failed. A failure without a reason of its own carries the vendor's
code if that is set, else the configuration error. -/
inductive WpsFailure where
  | tkipOnlyProhibited
  | wepProhibited
  | authFailure
  | overlap
  | generic (code : Int)
deriving DecidableEq, Repr

inductive SimMethod where
  /-- GSM authentication (EAP-SIM). -/
  | sim
  /-- UMTS authentication (EAP-AKA). -/
  | aka
deriving DecidableEq, Repr

/-- A request for SIM authentication. The data are the RAND values of GSM, or RAND and AUTN. -/
structure SimRequest where
  networkId : Int
  method : SimMethod
  ssid : String
  data : List String
deriving DecidableEq, Repr

/-- The end of an ANQP query. The elements are missing if the query failed or is not followed up. -/
structure AnqpResult where
  bssid : MacAddress
  elements : Option (Table String)
deriving DecidableEq

/-- The arrival of an operator icon. The data are missing if they could not be fetched. -/
structure Icon where
  bssid : MacAddress
  fileName : String
  size : Nat
  data : Option (List UInt8)
deriving DecidableEq, Repr

inductive ManagementNotice where
  | subscriptionRemediation (bssid : MacAddress) (url : String) (method : Int)
  /-- The notice concerns the whole network if `ess` holds, else one access point. -/
  | deauthImminent (bssid : MacAddress) (url : String) (ess : Bool) (delaySecs : Int)
deriving DecidableEq, Repr

inductive Event where
  | supplicantConnection
  | supplicantDisconnection
  /-- The address is missing if the line shows none. -/
  | networkConnection (networkId : Int) (bssid : Option String)
  | networkDisconnection (bssid : String) (reason : Int) (locallyGenerated : Bool)
  | scanResults
  | scanFailed
  | supplicantStateChange (change : StateChange)
  | authenticationFailure (reason : AuthFailure)
  | wpsSuccess
  | wpsFail (reason : WpsFailure)
  | wpsOverlap
  | wpsTimeout
  | driverHung
  | ssidTempDisabled (networkId : Int) (detail : Option String)
  | ssidReenabled (networkId : Int) (detail : Option String)
  | requestIdentity (networkId : Int) (ssid : Option String)
  | requestSimAuth (request : SimRequest)
  | targetBssid (bssid : Option String)
  | associatedBssid (bssid : Option String)
  | associationRejection (bssid : String) (status : Int)
  | stationConnected (device : Peer.Device)
  | stationDisconnected (device : Peer.Device)
  | anqpDone (result : AnqpResult)
  | iconDone (icon : Icon)
  | management (notice : ManagementNotice)
  | peerFound (device : Peer.Device)
  | peerLost (device : Peer.Device)
  | findStopped
  | negotiationRequest (negotiation : Peer.Negotiation)
  | negotiationSuccess
  | negotiationFailure (status : Peer.Status)
  | groupFormationSuccess
  | groupFormationFailure (status : Peer.Status)
  | groupStarted (group : Peer.Group)
  | groupRemoved (group : Peer.Group)
  | invitationReceived (group : Peer.Group)
  | invitationResult (status : Peer.Status)
  | provisioningPushButtonRequest (notice : Peer.Provisioning)
  | provisioningPushButtonResponse (notice : Peer.Provisioning)
  | provisioningEnterPin (notice : Peer.Provisioning)
  | provisioningShowPin (notice : Peer.Provisioning)
  | provisioningFailure
  | serviceDiscoveryResponse (answers : List Peer.ServiceAnswer)
deriving DecidableEq

namespace Event

/-- The kind under which handlers register for an event. -/
def kind : Event → EventKind
  | supplicantConnection => .supplicantConnection
  | supplicantDisconnection => .supplicantDisconnection
  | networkConnection .. => .networkConnection
  | networkDisconnection .. => .networkDisconnection
  | scanResults => .scanResults
  | scanFailed => .scanFailed
  | supplicantStateChange .. => .supplicantStateChange
  | authenticationFailure .. => .authenticationFailure
  | wpsSuccess => .wpsSuccess
  | wpsFail .. => .wpsFail
  | wpsOverlap => .wpsOverlap
  | wpsTimeout => .wpsTimeout
  | driverHung => .driverHung
  | ssidTempDisabled .. => .ssidTempDisabled
  | ssidReenabled .. => .ssidReenabled
  | requestIdentity .. => .requestIdentity
  | requestSimAuth .. => .requestSimAuth
  | targetBssid .. => .targetBssid
  | associatedBssid .. => .associatedBssid
  | associationRejection .. => .associationRejection
  | stationConnected .. => .stationConnected
  | stationDisconnected .. => .stationDisconnected
  | anqpDone .. => .anqpDone
  | iconDone .. => .iconDone
  | management .. => .management
  | peerFound .. => .peerFound
  | peerLost .. => .peerLost
  | findStopped => .findStopped
  | negotiationRequest .. => .negotiationRequest
  | negotiationSuccess => .negotiationSuccess
  | negotiationFailure .. => .negotiationFailure
  | groupFormationSuccess => .groupFormationSuccess
  | groupFormationFailure .. => .groupFormationFailure
  | groupStarted .. => .groupStarted
  | groupRemoved .. => .groupRemoved
  | invitationReceived .. => .invitationReceived
  | invitationResult .. => .invitationResult
  | provisioningPushButtonRequest .. => .provisioningPushButtonRequest
  | provisioningPushButtonResponse .. => .provisioningPushButtonResponse
  | provisioningEnterPin .. => .provisioningEnterPin
  | provisioningShowPin .. => .provisioningShowPin
  | provisioningFailure => .provisioningFailure
  | serviceDiscoveryResponse .. => .serviceDiscoveryResponse

end Event

def AuthFailure.name : AuthFailure → String
  | unspecified => "default"
  | timeout => "timeout"
  | wrongPassword => "wrong_password"
  | eapFailure => "eap_failure"

/-- The one-line text of an event: its name, and for a few kinds what matters most. -/
def Event.text (event : Event) : String :=
  match event with
  | networkConnection networkId bssid =>
    event.kind.name ++ " id=" ++ toString networkId ++ " bssid=" ++ bssid.getD "unknown"
  | networkDisconnection bssid reason locallyGenerated =>
    event.kind.name ++ " bssid=" ++ bssid ++ " reason=" ++ toString reason ++ " local="
      ++ (if locallyGenerated then "true" else "false")
  | supplicantStateChange change =>
    event.kind.name ++ " id=" ++ toString change.networkId ++ " state=" ++ change.state.name
  | authenticationFailure reason => event.kind.name ++ " reason=" ++ reason.name
  | _ => event.kind.name

end SupplicantWatch
