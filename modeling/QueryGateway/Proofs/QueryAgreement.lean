import QueryGateway.Client.Printout
import QueryGateway.Http.Site
import QueryGateway.Proofs.Handling
import QueryGateway.Proofs.Replies
import QueryGateway.Proofs.Verdicts

/-!
# Client and gateway agree on queries

A query comes to a text or to an error. Whatever it comes to, the client reads it from the response as the gateway
wrote it (`Client.printout_query`): the result and nothing else is printed on its output, an error and nothing else on
its error output. Both directions go through the same flat documents, so that nothing in a text, be it a quote or a
control character, can make one look like the other.
-/

namespace QueryGateway

/-! ## What a query comes to -/

/-- What a query comes to: its result, or the error that it is answered with. -/
abbrev Told := Except String String

/-- What a reply tells of a query; a trace tells nothing of one. -/
def Reply.told? : Reply → Option Told
  | result text => some (.ok text)
  | failure error => some (.error error)
  | trace _ => none
  | traceFailure _ _ _ => none

/-- The verdict on a run of the query engine tells of the query. -/
theorem Report.exists_told?_queryVerdict (report : Report) (bounds : Bounds) :
    ∃ told, (report.queryVerdict bounds).told? = some told := by
  have hway := report.queryWay bounds
  generalize report.queryVerdict bounds = reply at hway
  cases hway <;> exact ⟨_, rfl⟩

/-- What the outcome of a query tells of it; one that was given up tells nothing. -/
def Outcome.told? : Outcome → Option Told
  | .replied reply => reply.told?
  | .failed fault => some (.error (Http.Fault.ofRequestFault fault).message)
  | .cancelled => none

/-- What a site tells of the query in a request: a body that cannot be used is an error as well. -/
def Http.Site.told? {σ : Type} (site : Site σ) (r : Request) (s : σ) : Option Told :=
  match r.submission site.bodyLimit with
  | .error fault => some (.error (Fault.body fault).message)
  | .ok submission => (site.ports.serve site.engines .query submission s).1.told?

namespace Client

/-- How a client shows what a query comes to. -/
def Printout.ofTold : Told → Printout
  | .ok text => { out := text ++ "\n", success := true }
  | .error error => { err := "✗ " ++ error ++ "\n", success := false }

/-- What a document that says nothing but an error complains about. -/
theorem Printout.complaint_error (error : String) :
    complaint (.object [("error", .text error)]) = "✗ " ++ error ++ "\n" := by
  change "✗ " ++ error ++ "\n" ++ "" ++ "" = _
  rw [String.append_empty, String.append_empty]

/-! ## Reading -/

section
variable (base expression : String) (document : Provision) (status : Nat)

/-- A flat document in a response to a query is read as the object of its fields. -/
theorem printout_query_renderFields (fields : List (String × String)) :
    Order.printout ⟨base, .query expression document⟩ (some (.document status (Reply.renderFields fields))) =
      .ofQuery (Reply.ofFields fields) := by
  have hread : Json.parseBytes (Text.encode (Reply.renderFields fields)) = .ok (Reply.ofFields fields) := by
    rw [Json.parseBytes_encode, Reply.parse_renderFields]
  simp only [Order.printout, Http.Response.document, hread]

/-- A result is shown as it is. -/
theorem printout_query_result (text : String) :
    Order.printout ⟨base, .query expression document⟩ (some (.document status (Reply.result text).render)) =
      .ofTold (.ok text) :=
  printout_query_renderFields base expression document status [("result", text)]

/-- An error is shown as it is. -/
theorem printout_query_error (error : String) :
    Order.printout ⟨base, .query expression document⟩
        (some (.document status (Reply.renderFields [("error", error)]))) =
      .ofTold (.error error) := by
  rw [printout_query_renderFields]
  change ({ err := Printout.complaint (.object [("error", .text error)]), success := false } : Printout) = _
  rw [Printout.complaint_error]
  rfl

/-- A reply that tells of a query is shown as what it tells. -/
theorem printout_query_reply {reply : Reply} {told : Told} (h : reply.told? = some told) :
    Order.printout ⟨base, .query expression document⟩ (some (.document status reply.render)) = .ofTold told := by
  cases reply with
  | result text =>
    cases h
    exact printout_query_result base expression document status text
  | failure error =>
    cases h
    exact printout_query_error base expression document status error
  | trace => nomatch h
  | traceFailure => nomatch h

/-- What a submission to the query engine comes to is shown as what it tells. -/
theorem printout_query_submit {σ : Type} (site : Http.Site σ) (r : Http.Request) (s : σ) :
    (site.submit .query r s).1.map (fun response => Order.printout ⟨base, .query expression document⟩ (some response)) =
      (site.told? r s).map Printout.ofTold := by
  unfold Http.Site.submit Http.Site.told?
  cases r.submission site.bodyLimit with
  | error fault => exact congrArg some (printout_query_error base expression document _ _)
  | ok submission =>
    obtain ⟨outcome, deeds, hhandled, houtcome, -⟩ := site.ports.handled_serve site.engines .query submission s
    simp only [houtcome]
    cases hhandled with
    | refused refusal => exact congrArg some (printout_query_error base expression document _ _)
    | unavailable query _ hengine => nomatch hengine
    | storeFailed query id fault => exact congrArg some (printout_query_error base expression document _ _)
    | answered query id lease report =>
      obtain ⟨told, htold⟩ := report.exists_told?_queryVerdict site.engines.bounds
      have hshown := printout_query_reply base expression document 200 htold
      simp only [Http.Outcome.response, Outcome.told?, Report.verdict, Option.map_some, hshown, htold]
    | crashed query id lease payload => exact congrArg some (printout_query_error base expression document _ _)
    | hanging => rfl

end

/-- Client and gateway agree on every query, whatever characters are in its texts. The client shows every verdict on a
run of the query engine as what it tells, and every error as it is worded; and these are all the responses there are:
what a site answers to a submitted query, whatever its ports do, is shown as what the query came to. -/
theorem printout_query (base expression : String) (document : Provision) :
    (∀ (report : Report) (bounds : Bounds), ∃ told, (report.queryVerdict bounds).told? = some told ∧
      Order.printout ⟨base, .query expression document⟩ (some (.document 200 (report.queryVerdict bounds).render)) =
        .ofTold told) ∧
    (∀ (status : Nat) (error : String),
      Order.printout ⟨base, .query expression document⟩
          (some (.document status (Reply.renderFields [("error", error)]))) =
        .ofTold (.error error)) ∧
    ∀ (σ : Type) (site : Http.Site σ) (r : Http.Request) (s : σ),
      (site.submit .query r s).1.map
          (fun response => Order.printout ⟨base, .query expression document⟩ (some response)) =
        (site.told? r s).map Printout.ofTold := by
  refine ⟨?_, printout_query_error base expression document, fun σ => printout_query_submit base expression document⟩
  intro report bounds
  obtain ⟨told, htold⟩ := report.exists_told?_queryVerdict bounds
  exact ⟨told, htold, printout_query_reply base expression document 200 htold⟩

end Client
end QueryGateway
