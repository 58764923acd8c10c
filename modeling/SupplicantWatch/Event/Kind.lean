/-!
# Kinds of events

The kinds of events that a handler can be registered for, each with a stable code and a name.
-/

namespace SupplicantWatch

inductive EventKind where
  | supplicantConnection
  | supplicantDisconnection
  | networkConnection
  | networkDisconnection
  | scanResults
  | supplicantStateChange
  | authenticationFailure
  | wpsSuccess
  | wpsFail
  | wpsOverlap
  | wpsTimeout
  | driverHung
  | ssidTempDisabled
  | ssidReenabled
  | requestIdentity
  | requestSimAuth
  | scanFailed
  | peerFound
  | peerLost
  | negotiationRequest
  | negotiationSuccess
  | negotiationFailure
  | groupFormationSuccess
  | groupFormationFailure
  | groupStarted
  | groupRemoved
  | invitationReceived
  | invitationResult
  | provisioningPushButtonRequest
  | provisioningPushButtonResponse
  | provisioningEnterPin
  | provisioningShowPin
  | findStopped
  | serviceDiscoveryResponse
  | provisioningFailure
  | stationDisconnected
  | stationConnected
  | associationRejection
  | anqpDone
  | iconDone
  | management
  | targetBssid
  | associatedBssid
deriving DecidableEq, Repr, Inhabited

namespace EventKind

/-- Every kind of event in the order of declaration, with its code and its name. -/
def table : List (EventKind × Nat × String) :=
  [(supplicantConnection, 1, "SUPPLICANT_CONNECTION"),
   (supplicantDisconnection, 2, "SUPPLICANT_DISCONNECTION"),
   (networkConnection, 3, "NETWORK_CONNECTION"),
   (networkDisconnection, 4, "NETWORK_DISCONNECTION"),
   (scanResults, 5, "SCAN_RESULTS"),
   (supplicantStateChange, 6, "SUPPLICANT_STATE_CHANGE"),
   (authenticationFailure, 7, "AUTHENTICATION_FAILURE"),
   (wpsSuccess, 8, "WPS_SUCCESS"),
   (wpsFail, 9, "WPS_FAIL"),
   (wpsOverlap, 10, "WPS_OVERLAP"),
   (wpsTimeout, 11, "WPS_TIMEOUT"),
   (driverHung, 12, "DRIVER_HUNG"),
   (ssidTempDisabled, 13, "SSID_TEMP_DISABLED"),
   (ssidReenabled, 14, "SSID_REENABLED"),
   (requestIdentity, 15, "REQUEST_IDENTITY"),
   (requestSimAuth, 16, "REQUEST_SIM_AUTH"),
   (scanFailed, 17, "SCAN_FAILED"),
   (peerFound, 21, "P2P_DEVICE_FOUND"),
   (peerLost, 22, "P2P_DEVICE_LOST"),
   (negotiationRequest, 23, "P2P_GO_NEGOTIATION_REQUEST"),
   (negotiationSuccess, 25, "P2P_GO_NEGOTIATION_SUCCESS"),
   (negotiationFailure, 26, "P2P_GO_NEGOTIATION_FAILURE"),
   (groupFormationSuccess, 27, "P2P_GROUP_FORMATION_SUCCESS"),
   (groupFormationFailure, 28, "P2P_GROUP_FORMATION_FAILURE"),
   (groupStarted, 29, "P2P_GROUP_STARTED"),
   (groupRemoved, 30, "P2P_GROUP_REMOVED"),
   (invitationReceived, 31, "P2P_INVITATION_RECEIVED"),
   (invitationResult, 32, "P2P_INVITATION_RESULT"),
   (provisioningPushButtonRequest, 33, "P2P_PROV_DISC_PBC_REQUEST"),
   (provisioningPushButtonResponse, 34, "P2P_PROV_DISC_PBC_RESPONSE"),
   (provisioningEnterPin, 35, "P2P_PROV_DISC_ENTER_PIN"),
   (provisioningShowPin, 36, "P2P_PROV_DISC_SHOW_PIN"),
   (findStopped, 37, "P2P_FIND_STOPPED"),
   (serviceDiscoveryResponse, 38, "P2P_SERVICE_DISCOVERY_RESPONSE"),
   (provisioningFailure, 39, "P2P_PROV_DISC_FAILURE"),
   (stationDisconnected, 41, "AP_STA_DISCONNECTED"),
   (stationConnected, 42, "AP_STA_CONNECTED"),
   (associationRejection, 43, "ASSOCIATION_REJECTION"),
   (anqpDone, 44, "ANQP_DONE"),
   (iconDone, 53, "HS20_ICON_DONE"),
   (management, 61, "HS20_WNM"),
   (targetBssid, 71, "TARGET_BSSID"),
   (associatedBssid, 72, "ASSOCIATED_BSSID")]

def all : List EventKind :=
  table.map (·.1)

def row (kind : EventKind) : Nat × String :=
  (table.lookup kind).getD (0, "")

def code (kind : EventKind) : Nat :=
  kind.row.1

def name (kind : EventKind) : String :=
  kind.row.2

def ofCode? (code : Nat) : Option EventKind :=
  all.find? (·.code = code)

theorem mem_all (kind : EventKind) : kind ∈ all := by
  cases kind <;> decide

/-- The table has no kind twice. -/
theorem count_all (kind : EventKind) : all.count kind = 1 := by
  cases kind <;> decide

theorem ofCode?_code (kind : EventKind) : ofCode? kind.code = some kind := by
  cases kind <;> decide

end EventKind

end SupplicantWatch
