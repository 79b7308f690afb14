import QueryGateway.Client.Printout
import QueryGateway.Proofs.Isolation
import QueryGateway.Proofs.SubmissionStatus
import QueryGateway.Proofs.Submissions

/-!
# What the user passes is what the engine gets

The client sends a document and an expression as a submission, and the gateway reads the same two texts from it,
whatever characters are in them. The document goes into a file as it is, and the expression is one argument of the
engine (`Client.query_delivered`). If either of them is empty, the submission is refused before anything is done for it.
-/

namespace QueryGateway

variable {σ : Type}

namespace Client

/-! ## What the client sends -/

/-- The errand that has an engine work on an expression and a document. -/
def Errand.of (engine : Engine) (expression : String) (document : Provision) : Errand :=
  match engine with
  | .query => .query expression document
  | .visualization => .trace expression document

/-- A request that brings the call of an order to the gateway: it submits to an engine, and its body is that of the
call. -/
structure Brings (order : Order) (document : String) (engine : Engine) (r : Http.Request) : Prop
    extends r.Submits engine where
  body : (order.call document).body.map Text.encode = some r.body

section
variable {base expression document : String} {provision : Provision} {engine : Engine} {r : Http.Request}

/-- The body of such a request is the submission of both texts, whichever engine it is for. -/
theorem brings_iff : Brings ⟨base, .of engine expression provision⟩ document engine r ↔
    r.Submits engine ∧ r.body = Text.encode (queryBody expression document) := by
  have hcall : ((⟨base, .of engine expression provision⟩ : Order).call document).body =
      some (queryBody expression document) := by
    cases engine <;> rfl
  constructor
  · intro h
    have hbody := h.body
    rw [hcall, Option.map_some] at hbody
    exact ⟨h.toSubmits, (Option.some.inj hbody).symm⟩
  · rintro ⟨hsubmits, hbody⟩
    refine ⟨hsubmits, ?_⟩
    rw [hcall, hbody]
    rfl

/-- The gateway reads that submission from it, and nothing is left over. -/
theorem Brings.read (h : Brings ⟨base, .of engine expression provision⟩ document engine r) :
    Submission.read (Text.segments r.body) = .ok (⟨some document, some expression⟩, []) := by
  have hread := Submission.read_render ⟨some document, some expression⟩ []
  rw [List.append_nil] at hread
  rw [(brings_iff.1 h).2, Text.segments_encode]
  exact hread

end

end Client

/-! ## What the engine gets -/

/-- Two texts that are not empty make a query. -/
theorem Submission.validate_of_ne_empty {document expression : String} (hdocument : document ≠ "")
    (hexpression : expression ≠ "") :
    (⟨some document, some expression⟩ : Submission).validate =
      .ok ⟨document, expression, hdocument, hexpression⟩ := by
  simp [validate, hdocument, hexpression]

/-- If either of them is empty, they make none. -/
theorem Submission.validate_of_empty {document expression : String} (h : document = "" ∨ expression = "") :
    (⟨some document, some expression⟩ : Submission).validate = .error .missingFields := by
  rcases h with rfl | rfl
  · simp [validate]
  · simp [validate]

/-- What the outside looks like when an engine is called for a document and an expression that came in at `s`: its input
was provided, and `s'` is what the call finds. -/
structure CalledFor (ports : Ports σ) (engine : Engine) (document expression : String) (s : σ) (lease : Lease)
    (call : Call) (s' : σ) : Prop where
  provided : ports.acquire (ports.drawId s).1 document (ports.drawId s).2 = (.ok lease, s')
  /-- The expression is the first argument of the query engine, and the input the second. -/
  query : engine = .query → call.arguments = [expression, lease.path.display]
  /-- The visualization engine gets them behind its flag. -/
  visualization : engine = .visualization → call.arguments = ["--visualize", expression, lease.path.display]
  /-- Where inputs are files of a directory, that of this input holds the bytes of the document. -/
  content : ∀ {Ready : σ → Prop} {tree : σ → Tree} {cwd : Place} {d : InputDirectory},
    ports.KeepInputs Ready tree cwd d → Ready s → (tree s').read cwd lease.path = .ok (Text.encode document)

/-- How a document and an expression come through a request to a site. -/
structure Delivers (site : Http.Site σ) (engine : Engine) (document expression : String) (r : Http.Request) (s : σ) :
    Prop where
  /-- The site reads the two texts, and nothing else, from the body. -/
  decoded : Submission.read (Text.segments r.body) = .ok (⟨some document, some expression⟩, [])
  /-- If either of them is empty, they are refused, and nothing is done for them; not even a name is drawn. The response
  says so, unless it says that the body is too large. -/
  refused : document = "" ∨ expression = "" →
    site.ports.serve site.engines engine ⟨some document, some expression⟩ s = (.failed (.refused .missingFields), s) ∧
      site.deeds r s = [] ∧ (r.body.length ≤ site.bodyLimit → site.serve r s =
        (some ((Http.Fault.ofRequestFault (.refused .missingFields)).response.withHeaders Http.Site.permission), s))
  /-- Otherwise, unless there is nobody to draw a trace, an input is asked for with the document as it is; once it is
  there, the engine is called for both texts. -/
  worked : r.body.length ≤ site.bodyLimit → document ≠ "" → expression ≠ "" →
    (engine = .visualization → site.ports.available s site.engines.visualization = true) →
    (∃ fault, site.deeds r s =
      [.drew (site.ports.drawId s).1, .refusedInput (site.ports.drawId s).1 document fault]) ∨
    ∃ lease call s' last, CalledFor site.ports engine document expression s lease call s' ∧ site.deeds r s =
      [.drew (site.ports.drawId s).1, .acquired (site.ports.drawId s).1 document lease,
        .invoked call (site.ports.invoke call s').1, last]

/-- An engine that has its input is called for the texts of the query. -/
theorem calledFor_of_acquire {ports : Ports σ} (engines : Engines) (engine : Engine) {document : String}
    (expression : String) {s s' : σ} {lease : Lease}
    (h : ports.acquire (ports.drawId s).1 document (ports.drawId s).2 = (.ok lease, s')) :
    CalledFor ports engine document expression s lease (engines.call engine expression lease.path) s' := by
  refine ⟨h, ?_, ?_, ?_⟩
  · rintro rfl
    rfl
  · rintro rfl
    rfl
  · intro Ready tree cwd d hports hready
    obtain ⟨hready', -⟩ := hports.drawId hready
    obtain ⟨-, trouble, hacquire⟩ := hports.acquire (ports.drawId s).1 document hready'
    rw [h] at hacquire
    exact InputDirectory.read_of_acquire hacquire

namespace Client

/-- What the client sends is delivered, whatever characters are in it. -/
theorem query_delivered (base expression document : String) (provision : Provision) (engine : Engine)
    (site : Http.Site σ) {r : Http.Request} (h : Brings ⟨base, .of engine expression provision⟩ document engine r) (s : σ) :
    Delivers site engine document expression r s := by
  refine ⟨h.read, ?_, ?_⟩
  · intro hempty
    have hserve := Ports.serve_refused site.ports site.engines engine (s := s) (Submission.validate_of_empty hempty)
    refine ⟨hserve, ?_, ?_⟩
    · by_cases hfits : r.body.length ≤ site.bodyLimit
      · rw [Http.Site.deeds_fits site h.toSubmits hfits h.read,
          Ports.serve_refused _ _ _ (Submission.validate_of_empty hempty)]
      · obtain ⟨response, -, hall⟩ := Http.Site.refuses_tooLarge h.toSubmits (Nat.not_le.1 hfits)
        exact (Http.Site.Refuses.untouched hall s).1
    · intro hfits
      rw [Http.Site.serve_fits site h.toSubmits hfits, h.read]
      simp only [hserve]
      rfl
  · intro hfits hdocument hexpression hfound
    have hvalid := Submission.validate_of_ne_empty hdocument hexpression
    rw [Http.Site.deeds_fits site h.toSubmits hfits h.read]
    rcases hacquire : site.ports.acquire (site.ports.drawId s).1 document (site.ports.drawId s).2
      with ⟨fault | lease, s'⟩
    · exact .inl ⟨fault, Ports.deeds_of_refusedInput _ _ _ hvalid hfound hacquire⟩
    · obtain ⟨last, hdeeds⟩ := Ports.deeds_of_acquired site.ports site.engines engine hvalid hfound hacquire
      exact .inr ⟨lease, _, s', last, calledFor_of_acquire site.engines engine expression hacquire, hdeeds⟩

/-- A document and an expression full of quotes, escapes, line ends and words of a shell, in a body that just fits. -/
theorem query_delivered_shell_words :
    let expression := "\"; rm -rf / #\n\\u0041\t$(id)"
    let document := " \x7b\"json_data\":null,\"é😀\":\"\\\\\"\x7d\r"
    let site : Http.Site (Bench Script) :=
      { ports := Script.ports, engines := ⟨.ofString "jqlite", .ofString "viz", .standard⟩, bodyLimit := 107,
        staticDirectory := none, tree := Bench.tree, changed := 0 }
    let r : Http.Request :=
      { method := "POST", target := "/api/visualize", headers := [("content-type", "application/json")],
        body := Text.encode (queryBody expression document) }
    let s : Bench Script := { store := .directory ⟨.ofString "/in"⟩, engines := {} }
    Brings ⟨"http://127.0.0.1:3000/", .of .visualization expression (.literal document)⟩ document .visualization r ∧
      r.body.length = site.bodyLimit ∧ Delivers site .visualization document expression r s := by
  intro expression document site r s
  have hsubmits : r.Submits .visualization :=
    { method := rfl
      route := by decide
      type := by decide
      length := by
        intro n hn
        nomatch hn }
  have hbody : r.body = Text.encode (queryBody expression document) := by
    simp only [r]
  have hbrings : Brings ⟨"http://127.0.0.1:3000/", .of .visualization expression (.literal document)⟩ document
      .visualization r := brings_iff.2 ⟨hsubmits, hbody⟩
  exact ⟨hbrings, by decide +kernel, query_delivered _ expression document _ .visualization site hbrings s⟩

end Client
end QueryGateway
