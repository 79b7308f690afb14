import QueryGateway.Gateway.Refusal
import QueryGateway.Input.Lease

/-!
# Requests that get no reply

How a run of an engine went is always told in a reply. A request fails only when its submission is refused, when its
input cannot be provided, or when handling it crashed.
-/

namespace QueryGateway

/-- Why a request got no reply. -/
inductive RequestFault where
  | refused (refusal : Refusal)
  | store (fault : StoreFault)
  | crashed (message : String)
deriving DecidableEq, Repr, Inhabited

namespace RequestFault

/-- The wording of a failure. -/
def message : RequestFault → String
  | refused refusal => "Domain error: " ++ refusal.message
  | store fault => "Input store error: " ++ fault.message
  | crashed message => "Internal error: " ++ message

/-- Whether the client is to blame: only a submission that lacks a field is its fault. -/
def isValidation : RequestFault → Bool
  | refused .missingFields => true
  | _ => false

end RequestFault

end QueryGateway
