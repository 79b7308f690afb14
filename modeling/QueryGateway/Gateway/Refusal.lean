/-!
# Refusals

What the rules of the gateway forbid: a submission that lacks a field, or settings that no engine could run under.
-/

namespace QueryGateway

/-- A rule that was not kept. -/
inductive Refusal where
  | missingFields
  | invalidSettings (reason : String)
deriving DecidableEq, Repr, Inhabited

/-- The wording of a refusal. -/
def Refusal.message : Refusal → String
  | missingFields => "Missing required fields: json_data and query_string"
  | invalidSettings reason => "Invalid engine settings: " ++ reason

end QueryGateway
