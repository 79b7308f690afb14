import QueryGateway.Proofs.QueryAgreement
import QueryGateway.Proofs.SubmissionStatus
import QueryGateway.Proofs.TraceAgreement

/-!
# Errors that the client can read

Every error that handling a submission comes to travels as a document, and the client shows what it says, whichever
engine was asked (`Client.printout_error`). One refusal is made before that: a request that declares too long a body is
answered with a plain text, which the client cannot read (`declared_tooLarge_unreadable`). Among the responses that
tell of an error it is the only such one (`error_responses`).
-/

namespace QueryGateway

variable {σ : Type}

namespace Http

/-- A request is posted to the path of an engine, with any headers and any body; if it declares the length of its body
it declares the true one. -/
structure Request.Posts (r : Request) (engine : Engine) : Prop where
  method : r.method = "POST"
  route : Route.ofPath r.path = .submit engine
  length : ∀ n, r.declaredLength? = some n → n = r.body.length

/-- The body of a response is a document that says this error and nothing else. -/
def Response.SaysError (response : Response) (error : String) : Prop :=
  Json.parseBytes response.body = .ok (.object [("error", .text error)])

/-- More headers do not change what a response says. -/
theorem Response.saysError_withHeaders {response : Response} {headers : List Header} {error : String} :
    (response.withHeaders headers).SaysError error ↔ response.SaysError error :=
  Iff.rfl

/-- Every fault is told in such a document. -/
theorem Fault.saysError (fault : Fault) : fault.response.SaysError fault.message := by
  rw [Response.SaysError, Fault.response, Response.document, Json.parseBytes_encode, Reply.parse_renderFields]
  rfl

namespace Site

/-- The response to a submission tells of an error only if it came to a fault, and then it tells that fault. -/
theorem submit_error {site : Site σ} {engine : Engine} {r : Request} {s : σ} {response : Response}
    (h : (site.submit engine r s).1 = some response) (herror : 400 ≤ response.status) :
    ∃ fault : Fault, response = fault.response := by
  unfold submit at h
  cases hread : r.submission site.bodyLimit with
  | error fault =>
    rw [hread] at h
    exact ⟨.body fault, (Option.some.inj h).symm⟩
  | ok submission =>
    rw [hread] at h
    simp only at h
    cases houtcome : (site.ports.serve site.engines engine submission s).1 with
    | replied reply =>
      rw [houtcome] at h
      obtain rfl := Option.some.inj h
      exact absurd herror (by simp [Response.document])
    | failed fault =>
      rw [houtcome] at h
      exact ⟨.ofRequestFault fault, (Option.some.inj h).symm⟩
    | cancelled =>
      rw [houtcome] at h
      cases h

end Site
end Http

namespace Client

/-- An error that a response says is shown as it is, whichever engine was asked. -/
theorem printout_error {response : Http.Response} {error : String} (h : response.SaysError error) (order : Order)
    (horder : order.errand ≠ .health) : order.printout (some response) = .ofTold (.error error) := by
  obtain ⟨base, errand⟩ := order
  cases errand with
  | query expression document =>
    simp only [Order.printout, show Json.parseBytes response.body = _ from h]
    change ({ err := Printout.complaint _, success := false } : Printout) = _
    rw [Printout.complaint_error]
    rfl
  | trace expression document =>
    simp only [Order.printout, show Json.parseBytes response.body = _ from h]
    change ({ err := Printout.complaint _, success := false } : Printout) = _
    rw [Printout.complaint_error]
    rfl
  | health => exact absurd rfl horder

/-- A response that is no document is not shown; all the user gets to know is its status. -/
theorem printout_unreadable {response : Http.Response} {flaw : Json.Flaw}
    (h : Json.parseBytes response.body = .error flaw) (order : Order) (horder : order.errand ≠ .health) :
    order.printout (some response) = order.failed (.unreadableAnswer (some response.status)) := by
  obtain ⟨base, errand⟩ := order
  cases errand with
  | query expression document => simp only [Order.printout, h]
  | trace expression document => simp only [Order.printout, h]
  | health => exact absurd rfl horder

end Client

namespace Http.Site

/-! ## The two ways to an error -/

/-- The response to too long a declared length is no document. -/
theorem parseBytes_tooLarge : Json.parseBytes tooLarge.body = .error .malformed := by
  rw [tooLarge, Json.parseBytes_encode]
  rfl

variable {engine : Engine} {r : Request}

/-- A post that does not declare too long a body is answered with what its submission comes to. -/
theorem serve_posts_of_le (site : Site σ) (h : r.Posts engine) (s : σ)
    (hle : ∀ n, r.declaredLength? = some n → n ≤ site.bodyLimit) :
    (site.serve r s).1 = (site.submit engine r s).1.map (·.withHeaders permission) := by
  rw [serve_post site h.method h.route, checked]
  cases hdeclared : r.declaredLength? with
  | none => rfl
  | some n =>
    simp only [if_neg (Nat.not_lt.2 (hle n hdeclared))]
    rfl

/-- A post that declares too long a body is answered before its body is looked at. -/
theorem serve_posts_of_lt (site : Site σ) (h : r.Posts engine) (s : σ) {n : Nat}
    (hdeclared : r.declaredLength? = some n) (hlt : site.bodyLimit < n) :
    (site.serve r s).1 = some (tooLarge.withHeaders permission) := by
  rw [serve_post site h.method h.route, checked, hdeclared]
  simp only [if_pos hlt]
  rfl

/-- How a response that tells of an error is told: as a document with the error, which the client shows whatever it
asked for, unless the request declared too long a body. That is told in a text that the client cannot read. -/
structure TellsError (site : Site σ) (r : Request) (response : Response) : Prop where
  readable : (∀ n, r.declaredLength? = some n → n ≤ site.bodyLimit) →
    ∃ error, response.SaysError error ∧
      ∀ order : Client.Order, order.errand ≠ .health → order.printout (some response) = .ofTold (.error error)
  unreadable : ∀ n, r.declaredLength? = some n → site.bodyLimit < n →
    response = tooLarge.withHeaders permission ∧ Json.parseBytes response.body = .error .malformed ∧
      ∀ order : Client.Order, order.errand ≠ .health →
        order.printout (some response) = order.failed (.unreadableAnswer (some 413))

/-- Every response to a post that tells of an error, whatever its body, its headers, the inputs and the engines are, is
told so. -/
theorem error_responses (site : Site σ) (h : r.Posts engine) (s : σ) {response : Response}
    (hresponse : (site.serve r s).1 = some response) (herror : 400 ≤ response.status) :
    site.TellsError r response := by
  constructor
  · intro hle
    rw [serve_posts_of_le site h s hle] at hresponse
    obtain ⟨inner, hinner, rfl⟩ := Option.map_eq_some_iff.1 hresponse
    obtain ⟨fault, rfl⟩ := submit_error hinner herror
    have htold : (fault.response.withHeaders permission).SaysError fault.message :=
      Response.saysError_withHeaders.2 fault.saysError
    exact ⟨fault.message, htold, Client.printout_error htold⟩
  · intro n hdeclared hlt
    rw [serve_posts_of_lt site h s hdeclared hlt] at hresponse
    obtain rfl := Option.some.inj hresponse
    exact ⟨rfl, parseBytes_tooLarge, Client.printout_unreadable parseBytes_tooLarge⟩

/-- A body without a media type, refused by a site that reads up to 20 bytes. -/
theorem error_responses_untyped :
    let site : Site (Bench Script) :=
      { ports := Script.ports, engines := ⟨.ofString "jqlite", .ofString "viz", .standard⟩, bodyLimit := 20,
        staticDirectory := none, tree := Bench.tree, changed := 0 }
    let r : Request :=
      { method := "POST", target := "/api/visualize", headers := [("content-length", "2")],
        body := Text.encode "\x7b\x7d" }
    let response := (Fault.body .notJson).response.withHeaders permission
    r.Posts .visualization ∧ (site.serve r { engines := {} }).1 = some response ∧ 400 ≤ response.status ∧
      site.TellsError r response := by
  intro site r response
  have hposts : r.Posts .visualization :=
    { method := rfl
      route := by decide
      length := by decide }
  have hserve : (site.serve r { engines := {} }).1 = some response := by decide +kernel
  exact ⟨hposts, hserve, by decide, error_responses site hposts { engines := {} } hserve (by decide)⟩

/-- One byte too many, declared truly: the error is in no document, and the client can only say that it could not read
the response. -/
theorem declared_tooLarge_unreadable :
    let site : Site (Bench Script) :=
      { ports := Script.ports, engines := ⟨.ofString "jqlite", .ofString "viz", .standard⟩, bodyLimit := 44,
        staticDirectory := none, tree := Bench.tree, changed := 0 }
    let r : Request :=
      { method := "POST", target := "/api/query",
        headers := [("content-type", "application/json"), ("content-length", "45")],
        body := Text.encode "\x7b\"json_data\":\"\x7b\\\"a\\\":1\x7d\",\"query_string\":\".a\"\x7d" }
    let response := tooLarge.withHeaders permission
    r.Posts .query ∧ (site.serve r { engines := {} }).1 = some response ∧ response.status = 413 ∧
      (∀ document, Json.parseBytes response.body ≠ .ok document) ∧
      ∀ base expression document, Client.Order.printout ⟨base, .query expression document⟩ (some response) =
        { err := "Error: Failed to parse response (HTTP 413 Payload Too Large)\n", success := false } := by
  intro site r response
  have hposts : r.Posts .query :=
    { method := rfl
      route := by decide
      length := by decide }
  have hserve : (site.serve r { engines := {} }).1 = some response :=
    serve_posts_of_lt site hposts { engines := {} } (n := 45) (by decide) (by decide)
  refine ⟨hposts, hserve, rfl, ?_, ?_⟩
  · intro document hread
    nomatch parseBytes_tooLarge.symm.trans hread
  · intro base expression document
    exact Client.printout_unreadable parseBytes_tooLarge ⟨base, .query expression document⟩ nofun

end Http.Site
end QueryGateway
