import SupplicantWatch.Event.Basic

/-!
# Peer-to-peer notices

The lines of the peer-to-peer family. The first entry of the table that begins the line decides
which notice it is; the line then yields an event or, if its payload does not fit, none.
-/

namespace SupplicantWatch.Peer

def Provisioning.event (notice : Provisioning) : Event :=
  match notice.kind with
  | .pushButtonRequest => .provisioningPushButtonRequest notice
  | .pushButtonResponse => .provisioningPushButtonResponse notice
  | .enterPin => .provisioningEnterPin notice
  | .showPin => .provisioningShowPin notice

private def provisioning? (line : List Char) : Option Event :=
  (Provisioning.ofLine? line).map (·.event)

/-- The beginnings of the notices with the way to read each, in the order in which they are
tried. -/
def notices : List (String × (List Char → Option Event)) :=
  [("P2P-DEVICE-FOUND", fun line => (Device.ofLine? line).map .peerFound),
   ("P2P-DEVICE-LOST", fun line => (Device.ofLine? line).map .peerLost),
   ("P2P-FIND-STOPPED", fun _ => some .findStopped),
   ("P2P-GO-NEG-REQUEST", fun line => (Negotiation.ofLine? line).map .negotiationRequest),
   ("P2P-GO-NEG-SUCCESS", fun _ => some .negotiationSuccess),
   ("P2P-GO-NEG-FAILURE", fun line => some (.negotiationFailure (.ofLine line))),
   ("P2P-GROUP-FORMATION-SUCCESS", fun _ => some .groupFormationSuccess),
   ("P2P-GROUP-FORMATION-FAILURE", fun line => some (.groupFormationFailure (.ofLine line))),
   ("P2P-GROUP-STARTED", fun line => (Group.ofLine? line).map .groupStarted),
   ("P2P-GROUP-REMOVED", fun line => (Group.ofLine? line).map .groupRemoved),
   ("P2P-INVITATION-RECEIVED", fun line => (Group.ofLine? line).map .invitationReceived),
   ("P2P-INVITATION-RESULT", fun line => some (.invitationResult (.ofLine line))),
   ("P2P-PROV-DISC-PBC-REQ", provisioning?),
   ("P2P-PROV-DISC-PBC-RESP", provisioning?),
   ("P2P-PROV-DISC-ENTER-PIN", provisioning?),
   ("P2P-PROV-DISC-SHOW-PIN", provisioning?),
   ("P2P-PROV-DISC-FAILURE", fun _ => some .provisioningFailure),
   ("P2P-SERV-DISC-RESP",
    fun line => (ServiceAnswer.listOfLine? line).map .serviceDiscoveryResponse)]

def eventOfLine? (line : List Char) : Option Event :=
  (notices.find? fun notice => notice.1.toList.isPrefixOf line).bind fun notice => notice.2 line

end SupplicantWatch.Peer
