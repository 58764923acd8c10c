import SupplicantWatch.Text.Numeral
import SupplicantWatch.Text.Scan

/-!
# Peer-to-peer status

The outcome codes of a negotiation, a group formation or an invitation.
-/

namespace SupplicantWatch.Peer

/-- The outcome of a negotiation, a group formation or an invitation. -/
inductive Status where
  | success
  | informationIsCurrentlyUnavailable
  | incompatibleParameters
  | limitReached
  | invalidParameter
  | unableToAccommodateRequest
  | previousProtocolError
  | noCommonChannel
  | unknownGroup
  | bothOwnerIntent15
  | incompatibleProvisioningMethod
  | rejectedByUser
  | unknown
deriving DecidableEq, Repr

namespace Status

/-- The outcomes that have a code, in the order of their codes from zero. -/
def coded : List Status :=
  [success, informationIsCurrentlyUnavailable, incompatibleParameters, limitReached,
   invalidParameter, unableToAccommodateRequest, previousProtocolError, noCommonChannel,
   unknownGroup, bothOwnerIntent15, incompatibleProvisioningMethod, rejectedByUser]

/-- The outcome with a code; every other number is unknown. -/
def ofCode (code : Int) : Status :=
  if code < 0 then unknown else coded[code.toNat]?.getD unknown

/-- The outcome in the second word of a line, a code or `FREQ_CONFLICT` after its only equals sign;
anything else is unknown. -/
def ofLine (line : List Char) : Status :=
  match (line.splitOn ' ')[1]?.map (List.splitOn '=') with
  | some [_, value] =>
    if value = "FREQ_CONFLICT".toList then noCommonChannel
    else (Text.int? 32 value).elim unknown ofCode
  | _ => unknown

def name : Status → String
  | success => "success"
  | informationIsCurrentlyUnavailable => "information_is_currently_unavailable"
  | incompatibleParameters => "incompatible_parameters"
  | limitReached => "limit_reached"
  | invalidParameter => "invalid_parameter"
  | unableToAccommodateRequest => "unable_to_accommodate_request"
  | previousProtocolError => "previous_protocol_error"
  | noCommonChannel => "no_common_channel"
  | unknownGroup => "unknown_p2p_group"
  | bothOwnerIntent15 => "both_go_intent15"
  | incompatibleProvisioningMethod => "incompatible_provisioning_method"
  | rejectedByUser => "rejected_by_user"
  | unknown => "unknown"

end Status

end SupplicantWatch.Peer
