import QueryGateway.Client.Arguments
import QueryGateway.Client.HealthReader
import QueryGateway.Client.Table
import QueryGateway.Gateway.Submission
import QueryGateway.Http.Message
import QueryGateway.Http.Status
import QueryGateway.Json.Pretty
import QueryGateway.Json.Reader

/-!
# What the client prints

The client sends one request and prints what comes of it: a result, a trace or a health report on its output, an error
on its error output. It succeeds when it has something to show.
-/

namespace QueryGateway.Client

/-- What is printed, and whether the client succeeds. -/
structure Printout where
  out : String := ""
  err : String := ""
  success : Bool
deriving DecidableEq, Repr, Inhabited

/-- Why the client has nothing to show. -/
inductive Failure where
  | unreadableFile (path : String)
  | unreachable
  /-- The answer is no document; the status is told unless it was the health that was asked for. -/
  | unreadableAnswer (status : Option Nat)
deriving DecidableEq, Repr

/-- The wording of a failure. -/
def Failure.message : Failure → String
  | unreadableFile path => "Failed to read " ++ path
  | unreachable => "Failed to connect to gateway"
  | unreadableAnswer (some status) => "Failed to parse response (HTTP " ++ Http.Status.text status ++ ")"
  | unreadableAnswer none => "Failed to parse response"

namespace Printout

/-- The error that a document carries, if it carries one. -/
def errorOf (body : Json.Value) : Option String :=
  (body.get? "error").bind Json.Value.text?

/-- The result that a document carries, if it carries one. -/
def resultOf (body : Json.Value) : Option String :=
  (body.get? "result").bind Json.Value.text?

/-- What a document says of an error: the error itself, what the engine complained about, and what it printed. -/
def complaint (body : Json.Value) : String :=
  let error := ((errorOf body).map fun e => "✗ " ++ e ++ "\n").getD ""
  let stderr := (((body.get? "stderr").bind Json.Value.text?).filter (· ≠ "")).map fun t => "stderr:\n" ++ t ++ "\n"
  let raw := ((body.get? "raw_output").bind Json.Value.text?).map fun t => "raw output:\n" ++ t ++ "\n"
  error ++ stderr.getD "" ++ raw.getD ""

/-- What is printed of the answer to a query: its result unless it carries an error. -/
def ofQuery (body : Json.Value) : Printout :=
  match resultOf body, errorOf body with
  | some result, none => { out := result ++ "\n", success := true }
  | _, _ => { err := complaint body, success := false }

/-- What is printed of the answer to a call for a trace: the document as it is unless it carries an error. -/
def ofTrace (body : Json.Value) : Printout :=
  match errorOf body with
  | none => { out := body.pretty ++ "\n", success := true }
  | some _ => { err := complaint body, success := false }

/-- What is printed of a failure. -/
def ofFailure (failure : Failure) : Printout :=
  { err := "Error: " ++ failure.message ++ "\n", success := false }

/-- What stands above every health report. -/
def healthHeading : String := "Gateway Health\n\n"

/-- The rows of a health report. -/
def healthRows (h : Health) : List (List String) :=
  let yesNo (b : Bool) : String := if b then "yes" else "no"
  [["engine", "available", "path"], ["jqlite", yesNo h.queryAvailable, h.queryPath],
   ["visualization", yesNo h.visualizationAvailable, h.visualizationPath]]

/-- What is printed of a health report; without the engine for queries it is a failure. -/
def ofHealth (base : String) (h : Health) : Printout :=
  { out := healthHeading ++ "  URL: " ++ base ++ "\n  Status: " ++ h.status ++ "\n\n" ++
      Table.render (healthRows h) ++ "\n",
    success := h.queryAvailable }

/-- What is printed when there is no health report. -/
def ofHealthFailure (failure : Failure) : Printout :=
  { out := healthHeading ++ "  Status: ERROR\n  Error: " ++ failure.message ++ "\n", success := false }

end Printout

/-! ## Requests -/

/-- The address of a route under that of the gateway: slashes at the end of the latter do not count. -/
def endpoint (base path : String) : String :=
  String.ofList ((base.toList.reverse.dropWhile (· = '/')).reverse) ++ path

/-- The text of a query on the wire. -/
def queryBody (expression document : String) : String :=
  Submission.render ⟨some document, some expression⟩

/-- What an errand sends: the method, the address, and the body if it has one. -/
structure Call where
  method : String
  url : String
  body : Option String := none
deriving DecidableEq, Repr, Inhabited

namespace Order

/-- Where the document of an order comes from, if it needs one. -/
def provision? (order : Order) : Option Provision :=
  match order.errand with
  | .query _ document => some document
  | .trace _ document => some document
  | .health => none

/-- The call that an order makes with its document. -/
def call (order : Order) (document : String) : Call :=
  match order.errand with
  | .query expression _ => ⟨"POST", endpoint order.base "/api/query", some (queryBody expression document)⟩
  | .trace expression _ => ⟨"POST", endpoint order.base "/api/visualize", some (queryBody expression document)⟩
  | .health => ⟨"GET", endpoint order.base "/api/health", none⟩

/-- What is printed when an order fails. -/
def failed (order : Order) (failure : Failure) : Printout :=
  match order.errand with
  | .health => .ofHealthFailure failure
  | _ => .ofFailure failure

/-- What is printed of an answer; without one the gateway was not reached. -/
def printout (order : Order) (answer : Option Http.Response) : Printout :=
  match answer with
  | none => order.failed .unreachable
  | some r =>
    match order.errand with
    | .health =>
      match Health.parse r.body with
      | .ok h => .ofHealth order.base h
      | .error _ => order.failed (.unreadableAnswer none)
    | .query _ _ =>
      match Json.parseBytes r.body with
      | .ok body => .ofQuery body
      | .error _ => order.failed (.unreadableAnswer (some r.status))
    | .trace _ _ =>
      match Json.parseBytes r.body with
      | .ok body => .ofTrace body
      | .error _ => order.failed (.unreadableAnswer (some r.status))

end Order

end QueryGateway.Client
