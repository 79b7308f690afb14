import QueryGateway.Answer.Reply
import QueryGateway.Gateway.RequestFault
import QueryGateway.Http.Message
import QueryGateway.Json.Flaw

/-!
# Failed requests as responses

Every request that gets no reply is answered with a status and a document that carries the error. The way a run of an
engine went is never among them: that is told in a reply.
-/

namespace QueryGateway.Http

/-- Why a body could not be used. -/
inductive BodyFault where
  | notJson
  | tooLarge
  | flawed (flaw : Json.Flaw)
deriving DecidableEq, Repr, Inhabited

/-- The wording of a body's fault. -/
def BodyFault.message : BodyFault → String
  | notJson => "Expected request with \x60Content-Type: application/json\x60"
  | tooLarge => "Failed to buffer the request body: length limit exceeded"
  | flawed .mistyped => "Failed to deserialize the JSON body into the target type"
  | flawed _ => "Failed to parse the request body as JSON"

/-- Why a request is answered with an error. -/
inductive Fault where
  | invalid (message : String)
  | body (fault : BodyFault)
  | server (message : String)
deriving DecidableEq, Repr, Inhabited

namespace Fault

/-- The error response that a failed request gets. -/
def ofRequestFault : RequestFault → Fault
  | .refused refusal => invalid refusal.message
  | .store fault => server fault.message
  | .crashed message => server message

/-- The wording of an error. -/
def message : Fault → String
  | invalid message => message
  | body fault => "Invalid request body: " ++ fault.message
  | server message => "Server error: " ++ message

/-- The status of an error: the client's fault, a body that is too large, or the gateway's fault. -/
def status : Fault → Nat
  | invalid _ => 400
  | body .tooLarge => 413
  | body _ => 400
  | server _ => 500

/-- The response of an error. -/
def response (f : Fault) : Response :=
  .document f.status (Reply.renderFields [("error", f.message)])

end Fault

end QueryGateway.Http
