import QueryGateway.Gateway.Lifecycle
import QueryGateway.Gateway.SubmissionReader
import QueryGateway.Http.Fault
import QueryGateway.Http.MediaType
import QueryGateway.Http.StaticFiles
import QueryGateway.Text.Natural

/-!
# The site

The interface of the gateway over HTTP: two paths to submit queries to, one for the health report, and static files
for every other path. Around each of them lies the check of the declared length, and around that the permission for
every origin.
-/

namespace QueryGateway.Http

/-- The parts of a site. -/
structure Site (σ : Type) where
  ports : Ports σ
  engines : Engines
  bodyLimit : Nat
  staticDirectory : Option Path
  /-- Where static files are looked up. -/
  tree : σ → Tree
  /-- When the static files were last changed, in seconds since the start of 1970. -/
  changed : Nat

/-- What a path leads to. -/
inductive Route where
  | submit (engine : Engine)
  | health
  | elsewhere
deriving DecidableEq, Repr

/-- The route of a path; paths are matched as they are written. -/
def Route.ofPath (path : String) : Route :=
  if path = "/api/query" then submit .query
  else if path = "/api/visualize" then submit .visualization
  else if path = "/api/health" then health
  else elsewhere

/-- The methods that a route takes, as its `allow` header tells them. -/
def Route.allow : Route → Option String
  | submit _ => some "POST"
  | health => some "GET,HEAD"
  | elsewhere => none

/-- Whether a route takes a method. -/
def Route.takes (route : Route) (method : String) : Bool :=
  match route with
  | submit _ => method = "POST"
  | health => method = "GET" || method = "HEAD"
  | elsewhere => true

/-- The length that a request declares for its body, if it declares a number below 2^64. -/
def Request.declaredLength? (r : Request) : Option Nat :=
  match r.header? "content-length" with
  | none => none
  | some value => (Text.readNatural UInt64.size value).toOption

/-- How long the body of a request may be: no longer than the site allows, nor than the request itself declares. -/
def Request.allowedLength (limit : Nat) (r : Request) : Nat :=
  match r.declaredLength? with
  | none => limit
  | some n => min limit n

/-- The submission in the body of a request: its type is looked at first, then its length, then its text. Text behind
the submission is ignored. -/
def Request.submission (limit : Nat) (r : Request) : Except BodyFault Submission :=
  if !(r.header? "content-type").any MediaType.isJson then .error .notJson
  else if r.allowedLength limit < r.body.length then .error .tooLarge
  else
    match Submission.read (Text.segments r.body) with
    | .error flaw => .error (.flawed flaw)
    | .ok (submission, _) => .ok submission

/-- What a request comes to that may end without an answer: the response, or nothing when its run hangs. -/
abbrev Answer := Option Response

namespace Outcome

/-- The response to a request that came to this. -/
def response : QueryGateway.Outcome → Answer
  | .replied reply => some (.document 200 reply.render)
  | .failed fault => some (Fault.ofRequestFault fault).response
  | .cancelled => none

end Outcome

namespace Site

variable {σ : Type}

/-- Answers a submission. -/
def submit (site : Site σ) (engine : Engine) (r : Request) (s : σ) : Answer × σ :=
  match r.submission site.bodyLimit with
  | .error fault => (some (Fault.body fault).response, s)
  | .ok submission =>
    let (outcome, s) := site.ports.serve site.engines engine submission s
    (Outcome.response outcome, s)

/-- Answers a request that a route takes. -/
def handle (site : Site σ) (route : Route) (r : Request) (s : σ) : Answer × σ :=
  match route with
  | .submit engine => site.submit engine r s
  | .health => (some (.document 200 (site.ports.health site.engines s).render), s)
  | .elsewhere =>
    match site.staticDirectory with
    | none => (some (.empty 404 []), s)
    | some directory => (some (StaticFiles.serve (site.tree s) site.changed directory r), s)

/-- The response to a body whose declared length is too large. -/
def tooLarge : Response :=
  { status := 413, headers := [("content-type", "text/plain; charset=utf-8")],
    body := Text.encode "length limit exceeded" }

/-- Refuses a request that declares too long a body, whatever it asks for. -/
def checked (site : Site σ) (inner : Request → σ → Answer × σ) (r : Request) (s : σ) : Answer × σ :=
  match r.declaredLength? with
  | some n => if site.bodyLimit < n then (some tooLarge, s) else inner r s
  | none => inner r s

/-- The permission for every origin. -/
def everyOrigin : Header := ("access-control-allow-origin", "*")

/-- Permits every origin: a question about what is allowed is answered at once, any other answer carries the
permission. -/
def permitted (inner : Request → σ → Answer × σ) (r : Request) (s : σ) : Answer × σ :=
  if r.method = "OPTIONS" then
    (some (.empty 200
      [everyOrigin, ("access-control-allow-methods", "*"), ("access-control-allow-headers", "*")]), s)
  else
    let (answer, s) := inner r s
    (answer.map (·.withHeaders [everyOrigin, ("access-control-expose-headers", "*")]), s)

/-- Answers a request. A method that a route does not take is told which ones it does. -/
def serve (site : Site σ) (r : Request) (s : σ) : Answer × σ :=
  let route := Route.ofPath r.path
  let (answer, s) :=
    if route.takes r.method then permitted (site.checked (site.handle route)) r s
    else
      let (answer, s) := permitted (site.checked fun _ s => (some (.empty 405 []), s)) r s
      (answer.map (·.withHeaders (route.allow.toList.map fun methods => ("allow", methods))), s)
  (if r.method = "HEAD" then answer.map Response.withoutBody else answer, s)

end Site

end QueryGateway.Http
