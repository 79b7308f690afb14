import QueryGateway.Http.Site
import QueryGateway.Proofs.Handling

/-!
# What a submission is answered with

Over HTTP the status of the response to a submission is settled by the size of its body, then by what the body carries,
then by whether the gateway could do its part (`Site.serve_submission`). How the run of the engine went never shows in
the status, and a body that is refused leads to nothing outside.
-/

namespace QueryGateway

variable {σ : Type}

namespace Http

/-! ## What a client submits -/

/-- A request that submits to an engine: it is posted as a JSON document to the path of the engine, and if it declares
the length of its body it declares the true one. -/
structure Request.Submits (r : Request) (engine : Engine) : Prop where
  method : r.method = "POST"
  route : Route.ofPath r.path = .submit engine
  type : (r.header? "content-type").any MediaType.isJson = true
  length : ∀ n, r.declaredLength? = some n → n = r.body.length

/-- The query that a body carries: it reads as a submission that has both fields, and neither is empty. -/
def Carries (body : Bytes) (query : Query) : Prop :=
  ∃ rest, Submission.read (Text.segments body) = .ok (query.submission, rest)

/-- A body carries a query exactly when it reads as a submission that is not refused. -/
theorem carries_iff {body : Bytes} {query : Query} :
    Carries body query ↔
      ∃ submission rest, Submission.read (Text.segments body) = .ok (submission, rest) ∧
        submission.validate = .ok query := by
  constructor
  · rintro ⟨rest, hread⟩
    exact ⟨_, rest, hread, query.validate_submission⟩
  · rintro ⟨⟨document, expression⟩, rest, hread, hvalid⟩
    refine ⟨rest, ?_⟩
    rw [hread]
    cases document with
    | none => simp [Submission.validate] at hvalid
    | some document =>
      cases expression with
      | none => simp [Submission.validate] at hvalid
      | some expression =>
        simp only [Submission.validate] at hvalid
        split at hvalid
        · cases hvalid
        · split at hvalid
          · cases hvalid
          · cases hvalid
            rfl

namespace Site

/-! ## The layers around a submission -/

/-- The same site over an outside that comes with a list of what was done to it. -/
def recorded (site : Site σ) : Site (σ × List Deed) where
  ports := site.ports.recorded
  engines := site.engines
  bodyLimit := site.bodyLimit
  staticDirectory := site.staticDirectory
  tree w := site.tree w.1
  changed := site.changed

/-- What answering a request does to the outside. -/
def deeds (site : Site σ) (r : Request) (s : σ) : List Deed :=
  (site.recorded.serve r (s, [])).2.2

/-- The headers of every response to a submission. -/
def permission : List Header :=
  [everyOrigin, ("access-control-expose-headers", "*")]

/-- A request that every site with this limit refuses with this status, whatever its ports are, and without a change to
the outside. -/
def Refuses (limit : Nat) (r : Request) (status : Nat) : Prop :=
  ∃ response : Response, response.status = status ∧
    ∀ (τ : Type) (site : Site τ), site.bodyLimit = limit → ∀ s, site.serve r s = (some response, s)

variable {engine : Engine} {r : Request}

/-- What is posted to the path of an engine passes the method and the permission for every origin. -/
theorem serve_post (site : Site σ) (hmethod : r.method = "POST") (hroute : Route.ofPath r.path = .submit engine)
    (s : σ) :
    site.serve r s =
      ((site.checked (site.handle (.submit engine)) r s).1.map (·.withHeaders permission),
        (site.checked (site.handle (.submit engine)) r s).2) := by
  simp [serve, hroute, hmethod, Route.takes, permitted, permission]

/-- A submission passes the method and the permission for every origin. -/
theorem serve_submits (site : Site σ) (h : r.Submits engine) (s : σ) :
    site.serve r s =
      ((site.checked (site.handle (.submit engine)) r s).1.map (·.withHeaders permission),
        (site.checked (site.handle (.submit engine)) r s).2) :=
  serve_post site h.method h.route s

/-- A body that is too large is refused with the status that says so, whether or not its length was declared. -/
theorem refuses_tooLarge {limit : Nat} (h : r.Submits engine) (hlarge : limit < r.body.length) :
    Refuses limit r 413 := by
  cases hdeclared : r.declaredLength? with
  | none =>
    have hsubmission : r.submission limit = .error .tooLarge := by
      simp [Request.submission, h.type, Request.allowedLength, hdeclared, hlarge]
    refine ⟨(Fault.body .tooLarge).response.withHeaders permission, rfl, ?_⟩
    rintro τ site rfl s
    simp [serve_submits site h, checked, hdeclared, handle, submit, hsubmission]
  | some n =>
    obtain rfl := h.length n hdeclared
    refine ⟨tooLarge.withHeaders permission, rfl, ?_⟩
    rintro τ site rfl s
    simp [serve_submits site h, checked, hdeclared, hlarge]

/-- A body that is not too large is read. -/
theorem serve_fits (site : Site σ) (h : r.Submits engine) (hfits : r.body.length ≤ site.bodyLimit) (s : σ) :
    site.serve r s =
      match Submission.read (Text.segments r.body) with
      | .error flaw => (some ((Fault.body (.flawed flaw)).response.withHeaders permission), s)
      | .ok (submission, _) =>
        ((Outcome.response (site.ports.serve site.engines engine submission s).1).map (·.withHeaders permission),
          (site.ports.serve site.engines engine submission s).2) := by
  have hchecked : site.checked (site.handle (.submit engine)) r s = site.submit engine r s := by
    cases hdeclared : r.declaredLength? with
    | none => simp [checked, hdeclared, handle]
    | some n =>
      obtain rfl := h.length n hdeclared
      simp [checked, hdeclared, handle, Nat.not_lt.2 hfits]
  have hallowed : ¬r.allowedLength site.bodyLimit < r.body.length := by
    unfold Request.allowedLength
    cases hdeclared : r.declaredLength? with
    | none => simpa using hfits
    | some n =>
      obtain rfl := h.length n hdeclared
      simp only
      omega
  rw [serve_submits site h, hchecked]
  simp only [submit, Request.submission, h.type, Bool.not_true, Bool.false_eq_true, if_false, hallowed]
  rcases Submission.read (Text.segments r.body) with flaw | ⟨submission, rest⟩ <;> rfl

/-- All that is done for it is done to handle the submission that it reads as. -/
theorem deeds_fits (site : Site σ) (h : r.Submits engine) (hfits : r.body.length ≤ site.bodyLimit)
    {submission : Submission} {rest : Json.Source}
    (hread : Submission.read (Text.segments r.body) = .ok (submission, rest)) (s : σ) :
    site.deeds r s = (site.ports.recorded.serve site.engines engine submission (s, [])).2.2 := by
  rw [deeds, serve_fits site.recorded h hfits, hread]
  rfl

/-- A body that carries no query is a bad request. -/
theorem refuses_bad {limit : Nat} (h : r.Submits engine) (hfits : r.body.length ≤ limit)
    (hnone : ¬∃ query, Carries r.body query) : Refuses limit r 400 := by
  cases hread : Submission.read (Text.segments r.body) with
  | error flaw =>
    refine ⟨(Fault.body (.flawed flaw)).response.withHeaders permission, by cases flaw <;> rfl, ?_⟩
    rintro τ site rfl s
    rw [serve_fits site h hfits, hread]
  | ok read =>
    obtain ⟨submission, rest⟩ := read
    cases hvalid : submission.validate with
    | ok query => exact absurd ⟨query, carries_iff.2 ⟨submission, rest, hread, hvalid⟩⟩ hnone
    | error refusal =>
      refine ⟨(Fault.ofRequestFault (.refused refusal)).response.withHeaders permission, rfl, ?_⟩
      rintro τ site rfl s
      rw [serve_fits site h hfits, hread]
      simp only [Ports.serve_refused site.ports site.engines engine hvalid]
      rfl

/-- A body that carries a query is handled from end to end, and the response tells what it came to. -/
theorem serve_carries (site : Site σ) (h : r.Submits engine) (hfits : r.body.length ≤ site.bodyLimit) {query : Query}
    (hcarries : Carries r.body query) (s : σ) :
    ∃ outcome, Handled site.engines engine query.submission (site.ports.available s site.engines.visualization) outcome
        (site.deeds r s) ∧
      (site.serve r s).1 = (Outcome.response outcome).map (·.withHeaders permission) := by
  obtain ⟨rest, hread⟩ := hcarries
  obtain ⟨outcome, deeds, hhandled, houtcome, hrecorded⟩ :=
    Ports.handled_serve site.ports site.engines engine query.submission s
  have hdeeds : site.deeds r s = deeds := by
    rw [deeds_fits site h hfits hread, hrecorded]
  rw [hdeeds, serve_fits site h hfits, hread]
  exact ⟨outcome, hhandled, by simp only [houtcome]⟩

/-- A query whose run ends, if there is one, gets a response. Its status says whether the gateway could do its part; if
it could, the document is a verdict on the report of the run, or says that nobody could draw the trace. -/
theorem response_of_handled {engines : Engines} {query : Query} {found : Bool} {outcome : QueryGateway.Outcome}
    {deeds : List Deed} (h : Handled engines engine query.submission found outcome deeds)
    (hends : ∀ call, .invoked call .hanging ∉ deeds) :
    ∃ response, Outcome.response outcome = some response ∧ (response.status = 500 ∨ response.status = 200) ∧
      (response.status = 500 ↔ (∃ id document fault, .refusedInput id document fault ∈ deeds) ∨
        ∃ call payload, .invoked call (.crashed payload) ∈ deeds) ∧
      (response.status = 200 →
        (∃ call report, .invoked call (.finished report) ∈ deeds ∧
          response.body = Text.encode (report.verdict engine engines.bounds).render) ∨
        engine = .visualization ∧ found = false ∧
          response.body = Text.encode (Reply.bareTraceFailure Stage.visualizationUnavailable).render) := by
  cases h with
  | refused refusal hvalid => rw [query.validate_submission] at hvalid; nomatch hvalid
  | unavailable query' hvalid hengine hfound =>
    exact ⟨_, rfl, .inr rfl, by simp [Response.document], fun _ => .inr ⟨hengine, hfound, rfl⟩⟩
  | storeFailed query' id fault hfit =>
    exact ⟨_, rfl, .inl rfl, by simp [Fault.response, Response.document, Fault.ofRequestFault, Fault.status], nofun⟩
  | answered query' id lease report hfit =>
    exact ⟨_, rfl, .inr rfl, by simp [Response.document], fun _ =>
      .inl ⟨engines.call engine query'.expression lease.path, report, by simp, rfl⟩⟩
  | crashed query' id lease payload hfit =>
    exact ⟨_, rfl, .inl rfl, by simp [Fault.response, Response.document, Fault.ofRequestFault, Fault.status], nofun⟩
  | hanging query' id lease hfit => exact absurd (by simp) (hends (engines.call engine query'.expression lease.path))

/-- Nothing is tried for a trace that nobody could draw. -/
theorem deeds_of_unavailable {engines : Engines} {query : Query} {outcome : QueryGateway.Outcome} {deeds : List Deed}
    (h : Handled engines .visualization query.submission false outcome deeds) : deeds = [] := by
  have hunfit : ∀ query', ¬Fit .visualization query.submission false query' := fun query' hfit =>
    nomatch hfit.2 rfl
  cases h with
  | refused refusal hvalid => rfl
  | unavailable query' hvalid hengine hfound => rfl
  | storeFailed query' id fault hfit => exact absurd hfit (hunfit query')
  | answered query' id lease report hfit => exact absurd hfit (hunfit query')
  | crashed query' id lease payload hfit => exact absurd hfit (hunfit query')
  | hanging query' id lease hfit => exact absurd hfit (hunfit query')

/-! ## The status -/

/-- A request fails by its client's fault exactly when the response says so. -/
theorem status_ofRequestFault_iff {ports : Ports σ} {engines : Engines} {submission : Submission} {s : σ}
    {fault : RequestFault} (h : (ports.serve engines engine submission s).1 = .failed fault) :
    (Fault.ofRequestFault fault).status = 400 ↔ fault.isValidation = true := by
  obtain ⟨outcome, deeds, hhandled, houtcome, -⟩ := Ports.handled_serve ports engines engine submission s
  rw [houtcome] at h
  subst h
  cases hhandled with
  | refused refusal hvalid =>
    have hmissing : refusal = .missingFields := by
      unfold Submission.validate at hvalid
      split at hvalid
      · split at hvalid
        · cases hvalid
          rfl
        · split at hvalid <;> cases hvalid
          rfl
      · cases hvalid
        rfl
    subst hmissing
    simp [Fault.ofRequestFault, Fault.status, RequestFault.isValidation]
  | storeFailed query id fault hfit => simp [Fault.ofRequestFault, Fault.status, RequestFault.isValidation]
  | crashed query id lease payload hfit => simp [Fault.ofRequestFault, Fault.status, RequestFault.isValidation]

/-- How a submission and the response to it go together. -/
structure Settles (site : Site σ) (engine : Engine) (r : Request) (s : σ) (response : Response) : Prop where
  /-- The body is too large. -/
  tooLarge : response.status = 413 ↔ site.bodyLimit < r.body.length
  /-- It is not, and carries no query. -/
  badRequest : r.body.length ≤ site.bodyLimit → (response.status = 400 ↔ ¬∃ query, Carries r.body query)
  /-- Then nothing outside is touched: any other ports would lead to the same response. -/
  untouched : response.status = 413 ∨ response.status = 400 →
    site.deeds r s = [] ∧ ∀ ports : Ports σ, ({ site with ports := ports } : Site σ).serve r s = (some response, s)
  /-- It carries a query, and its input was not provided or its run crashed. -/
  serverFault : r.body.length ≤ site.bodyLimit → (∃ query, Carries r.body query) →
    (response.status = 500 ↔ (∃ id document fault, .refusedInput id document fault ∈ site.deeds r s) ∨
      ∃ call payload, .invoked call (.crashed payload) ∈ site.deeds r s)
  /-- Neither is tried for a trace that nobody could draw. -/
  untried : engine = .visualization → site.ports.available s site.engines.visualization = false → site.deeds r s = []
  /-- In all other cases the response is a verdict on the report of the run, or says that nobody could draw the trace. -/
  answered : r.body.length ≤ site.bodyLimit → (∃ query, Carries r.body query) → response.status ≠ 500 →
    response.status = 200 ∧
      ((∃ call report, .invoked call (.finished report) ∈ site.deeds r s ∧
          response.body = Text.encode (report.verdict engine site.engines.bounds).render) ∨
        engine = .visualization ∧ site.ports.available s site.engines.visualization = false ∧
          response.body = Text.encode (Reply.bareTraceFailure Stage.visualizationUnavailable).render)
  /-- A fault that the handling may come to is told as the client's exactly when it is. -/
  blame : ∀ submission fault, (site.ports.serve site.engines engine submission s).1 = .failed fault →
    ((Fault.ofRequestFault fault).status = 400 ↔ fault.isValidation = true)

/-- A refused request touches nothing outside. -/
theorem Refuses.untouched {site : Site σ} {response : Response}
    (h : ∀ (τ : Type) (site' : Site τ), site'.bodyLimit = site.bodyLimit → ∀ s, site'.serve r s = (some response, s))
    (s : σ) :
    site.deeds r s = [] ∧ ∀ ports : Ports σ, ({ site with ports := ports } : Site σ).serve r s = (some response, s) := by
  refine ⟨?_, fun ports => h σ { site with ports := ports } rfl s⟩
  rw [deeds, h (σ × List Deed) site.recorded rfl]

/-- The response to a submission whose run ends, if there is one, tells what it came to. -/
theorem serve_submission (site : Site σ) (h : r.Submits engine) (s : σ)
    (hends : ∀ call, .invoked call .hanging ∉ site.deeds r s) :
    ∃ response, (site.serve r s).1 = some response ∧ site.Settles engine r s response := by
  have hblame : ∀ submission fault, (site.ports.serve site.engines engine submission s).1 = .failed fault →
      ((Fault.ofRequestFault fault).status = 400 ↔ fault.isValidation = true) := fun _ _ hfault =>
    status_ofRequestFault_iff hfault
  by_cases hlarge : site.bodyLimit < r.body.length
  · obtain ⟨response, hstatus, hall⟩ := refuses_tooLarge h hlarge
    have huntouched := Refuses.untouched hall s
    refine ⟨response, by rw [hall σ site rfl], ?_⟩
    exact
      { tooLarge := ⟨fun _ => hlarge, fun _ => hstatus⟩
        badRequest := fun hfits => absurd hlarge (Nat.not_lt.2 hfits)
        untouched := fun _ => huntouched
        serverFault := fun hfits => absurd hlarge (Nat.not_lt.2 hfits)
        untried := fun _ _ => huntouched.1
        answered := fun hfits => absurd hlarge (Nat.not_lt.2 hfits)
        blame := hblame }
  have hfits : r.body.length ≤ site.bodyLimit := Nat.not_lt.1 hlarge
  by_cases hcarries : ∃ query, Carries r.body query
  · obtain ⟨query, hquery⟩ := hcarries
    obtain ⟨outcome, hhandled, hanswer⟩ := serve_carries site h hfits hquery s
    obtain ⟨response, hresponse, hstatus, hfault, hdocument⟩ := response_of_handled hhandled hends
    have hsound : response.status ≠ 413 ∧ response.status ≠ 400 := by omega
    refine ⟨response.withHeaders permission, by rw [hanswer, hresponse]; rfl, ?_⟩
    exact
      { tooLarge := ⟨fun htold => absurd htold hsound.1, fun hlarge' => absurd hlarge' hlarge⟩
        badRequest := fun _ => ⟨fun htold => absurd htold hsound.2, fun hnone => absurd ⟨query, hquery⟩ hnone⟩
        untouched := fun htold => (htold.elim hsound.1 hsound.2).elim
        serverFault := fun _ _ => hfault
        untried := by
          rintro rfl hmissing
          rw [hmissing] at hhandled
          exact deeds_of_unavailable hhandled
        answered := fun _ _ hgood => ⟨hstatus.resolve_left hgood, hdocument (hstatus.resolve_left hgood)⟩
        blame := hblame }
  · obtain ⟨response, hstatus, hall⟩ := refuses_bad h hfits hcarries
    have huntouched := Refuses.untouched hall s
    refine ⟨response, by rw [hall σ site rfl], ?_⟩
    exact
      { tooLarge := ⟨fun htold => by omega, fun hlarge' => absurd hlarge' hlarge⟩
        badRequest := fun _ => ⟨fun _ => hcarries, fun _ => hstatus⟩
        untouched := fun _ => huntouched
        serverFault := fun _ hquery => absurd hquery hcarries
        untried := fun _ _ => huntouched.1
        answered := fun _ hquery => absurd hquery hcarries
        blame := hblame }

/-- A trace whose engine prints past its deadline, with the fields in the other order and one that nobody knows. -/
theorem serve_submission_timedOut :
    let site : Site (Bench Script) :=
      { ports := Script.ports, engines := ⟨.ofString "jqlite", .ofString "viz", .standard⟩, bodyLimit := 50,
        staticDirectory := none, tree := Bench.tree, changed := 0 }
    let r : Request :=
      { method := "POST", target := "/api/visualize?trace",
        headers := [("content-length", "50"), ("content-type", "application/json")],
        body := Text.encode "\x7b\"query_string\":\".\",\"depth\":[3],\"json_data\":\"[]\"\x7d\n" }
    let s : Bench Script :=
      { engines := { endings := [.finished { (Report.timedOut ⟨5000000000⟩) with stdout := "\x7b\x7d" }] } }
    r.Submits .visualization ∧ (∀ call, .invoked call .hanging ∉ site.deeds r s) ∧
      ∃ response, (site.serve r s).1 = some response ∧ site.Settles .visualization r s response := by
  intro site r s
  have hsubmits : r.Submits .visualization :=
    { method := rfl
      route := by decide
      type := by decide
      length := by decide }
  have hdeeds : site.deeds r s =
      [.drew "req-1", .acquired "req-1" "[]" ⟨"req-1", Ledger.pathFor "req-1", false⟩,
        .invoked ⟨.ofString "viz", ["--visualize", ".", "/mock-input-store/input-req-1.json"], .standard⟩
          (.finished { (Report.timedOut ⟨5000000000⟩) with stdout := "\x7b\x7d" }),
        .released ⟨"req-1", Ledger.pathFor "req-1", false⟩] := by
    decide +kernel
  exact ⟨hsubmits, by simp [hdeeds], serve_submission site hsubmits s (by simp [hdeeds])⟩

end Site
end Http
end QueryGateway
