import QueryGateway.Client.Printout
import QueryGateway.Proofs.Json.Documents
import QueryGateway.Proofs.Replies
import QueryGateway.Proofs.Verdicts

/-!
# Client and gateway agree on traces, but for one kind of trace

A trace travels as it is, so that a client tells it from a diagnostic only by what it says of itself: a document with a
string under `error` counts as an error. A diagnostic always has one, so none is ever shown as a trace. A trace may
have one as well (`trace_shown_as_error`), and these traces are the only ones that are not shown as such
(`printout_trace`).
-/

namespace QueryGateway

open Json

/-! ## Errors of documents -/

namespace Client.Printout

/-- A document carries the same error once it has been written and read again. -/
theorem errorOf_reread (v : Json.Value) : errorOf v.reread = errorOf v := by
  cases v with
  | object members =>
    have hlookup : (Value.rereadMembers members).lookup "error" = (members.lookup "error").map Value.reread := by
      rw [Value.rereadMembers_eq_map]
      induction members with
      | nil => rfl
      | cons m members ih =>
        obtain ⟨k, v⟩ := m
        rw [List.map_cons, Members.lookup_cons, Members.lookup_cons, ih]
        split <;> rfl
    rw [errorOf, errorOf, Value.reread, Value.get?, Value.get?, hlookup]
    cases members.lookup "error" with
    | none => rfl
    | some v => cases v <;> rfl
  | _ => rfl

/-- A trace is read as a document that carries the same error, if any. -/
theorem parse_render_trace {stdout : String} {trace : Json.Value} (h : parse stdout = .ok trace) :
    ∃ body, parse (Reply.trace trace).render = .ok body ∧ errorOf body = errorOf trace :=
  ⟨trace.reread, parse_render h, errorOf_reread trace⟩

/-- A diagnostic is read as a document that carries its error. -/
theorem parse_render_traceFailure (error : String) (rawOutput stderr : Option String) :
    ∃ body, parse (Reply.traceFailure error rawOutput stderr).render = .ok body ∧ errorOf body = some error := by
  refine ⟨_, Reply.parse_renderFields _, ?_⟩
  cases rawOutput <;> cases stderr <;>
    simp [errorOf, Reply.ofFields, Reply.optionalField, Members.ofList, Value.get?, Members.lookup_insert, Value.text?]

end Client.Printout

/-! ## Verdicts -/

/-- The verdict on a run of the visualization engine is a trace that was read, or a diagnostic. -/
theorem Report.traceVerdict_cases (report : Report) (bounds : Bounds) :
    (∃ document, parse report.stdout = .ok document ∧ report.traceVerdict bounds = .trace document) ∨
      ∃ error rawOutput stderr, report.traceVerdict bounds = .traceFailure error rawOutput stderr := by
  have hway := report.traceWay bounds
  generalize report.traceVerdict bounds = reply at hway
  cases hway with
  | read document _ _ hread => exact .inl ⟨document, hread, rfl⟩
  | late | faulty | unreadable => exact .inr ⟨_, _, _, rfl⟩

namespace Client

/-- The client reads the response to a call for a trace as one document. -/
theorem printout_trace_document (base expression text : String) (document : Provision) (status : Nat)
    {body : Json.Value} (h : parse text = .ok body) :
    Order.printout ⟨base, .trace expression document⟩ (some (.document status text)) = .ofTrace body := by
  rw [← parseBytes_encode] at h
  simp only [Order.printout, Http.Response.document, h]

/-- The client shows a document as a trace unless it carries an error. -/
theorem Printout.success_ofTrace (body : Json.Value) : (ofTrace body).success = (errorOf body).isNone := by
  unfold ofTrace
  split <;> simp [*]

/-- What the visualization engine prints may be a trace to the gateway and an error to the client. -/
theorem trace_shown_as_error :
    let reply := (Report.exited "\x7b\"error\":\"none\"\x7d" "").traceVerdict .standard
    reply.isSuccess = true ∧
      (Order.printout ⟨"", .trace "." (.literal "[]")⟩ (some (.document 200 reply.render))).success = false := by
  decide +kernel

/-- Client and gateway agree on every verdict on a run of the visualization engine but a trace that carries an error.
The response is a document in any case, and the client goes by the error it carries: that of a diagnostic is always
the diagnostic's own. -/
theorem printout_trace (base expression : String) (document : Provision) (report : Report) (bounds : Bounds) :
    let reply := report.traceVerdict bounds
    let printout := Order.printout ⟨base, .trace expression document⟩ (some (.document 200 reply.render))
    ∃ body, parseBytes (Text.encode reply.render) = .ok body ∧ printout = .ofTrace body ∧
      (printout.success = reply.isSuccess ↔ ∀ trace, reply = .trace trace → Printout.errorOf trace = none) ∧
      (reply.isSuccess = false → Printout.errorOf body = reply.error?) := by
  intro reply printout
  rcases report.traceVerdict_cases bounds with ⟨trace, hread, hreply⟩ | ⟨error, rawOutput, stderr, hreply⟩
  · obtain ⟨body, hparse, herror⟩ := Printout.parse_render_trace hread
    rw [← hreply] at hparse
    have hprintout : printout = .ofTrace body := printout_trace_document base expression _ document 200 hparse
    refine ⟨body, (parseBytes_encode _).trans hparse, hprintout, ?_, ?_⟩
    · rw [hprintout, Printout.success_ofTrace, herror, show reply = .trace trace from hreply]
      simp [Reply.isSuccess]
    · rw [show reply = .trace trace from hreply]
      nofun
  · obtain ⟨body, hparse, herror⟩ := Printout.parse_render_traceFailure error rawOutput stderr
    rw [← hreply] at hparse
    have hprintout : printout = .ofTrace body := printout_trace_document base expression _ document 200 hparse
    refine ⟨body, (parseBytes_encode _).trans hparse, hprintout, ?_, fun _ => ?_⟩
    · rw [hprintout, Printout.success_ofTrace, herror, show reply = .traceFailure error rawOutput stderr from hreply]
      simp [Reply.isSuccess]
    · rw [herror, show reply = .traceFailure error rawOutput stderr from hreply]
      rfl

end Client
end QueryGateway
