import QueryGateway.Answer.Reply
import QueryGateway.Json.Reader

/-!
# Traces

What the visualization engine prints is read as one document. When it is none, the client gets a diagnostic with the
output as it was.
-/

namespace QueryGateway.Trace

/-- The error of a diagnostic. -/
def unreadable : String := "Failed to parse visualization output"

/-- The trace that an output holds. -/
def ofOutput (stdout : String) : Except Json.Flaw Json.Value :=
  Json.parse stdout

/-- The diagnostic for an output that holds no trace. -/
def diagnostic (stdout stderr : String) : Reply :=
  .traceFailure unreadable (some stdout) (some stderr)

/-- The reply to a clean run of the visualization engine. What it printed on the second channel does not decide
anything. -/
def reply (stdout stderr : String) : Reply :=
  match ofOutput stdout with
  | .ok document => .trace document
  | .error _ => diagnostic stdout stderr

end QueryGateway.Trace
