import QueryGateway.Answer.Trace
import QueryGateway.Engine.Call
import QueryGateway.Engine.Report

/-!
# From a report to a reply

The verdict on a run. A run killed by its deadline answers with the deadline, whatever else the report says. On the
query path anything but blanks on the second channel is an error, also when the run ended cleanly; on the
visualization path only the way the run ended and the document decide.
-/

namespace QueryGateway

namespace Report

/-- The words in front of a fault that the engine itself said nothing about. -/
def faultLead : String := "Execution error: "

/-- The error of a run that was killed by its deadline. -/
def timeoutError (subject : String) (bounds : Bounds) : String :=
  subject ++ " timeout (exceeded " ++ bounds.timeoutLabel ++ ")"

/-- The verdict on a run of the query engine. -/
def queryVerdict (r : Report) (bounds : Bounds) : Reply :=
  if r.killedByTimeout then .failure (timeoutError "Query execution" bounds)
  else
    let said := Text.trim r.stderr
    if said ≠ "" then .failure said
    else
      match r.fault with
      | some fault => .failure (faultLead ++ fault.message)
      | none => .result (Text.trim r.stdout)

/-- The verdict on a run of the visualization engine. -/
def traceVerdict (r : Report) (bounds : Bounds) : Reply :=
  if r.killedByTimeout then .bareTraceFailure (timeoutError "Visualization" bounds)
  else
    match r.fault with
    | some fault => .traceFailure (faultLead ++ fault.message) none (some r.stderr)
    | none => Trace.reply r.stdout r.stderr

/-- The verdict on a run of either engine. -/
def verdict (r : Report) (engine : Engine) (bounds : Bounds) : Reply :=
  match engine with
  | .query => r.queryVerdict bounds
  | .visualization => r.traceVerdict bounds

end Report

end QueryGateway
