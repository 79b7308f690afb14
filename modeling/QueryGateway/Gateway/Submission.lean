import QueryGateway.Gateway.Refusal
import QueryGateway.Json.Quoted

/-!
# Submissions and queries

A client submits a document and a query expression, either of which may be absent. A submission becomes a query when
both are there and neither is empty; blanks are content, and the engine decides what they mean.
-/

namespace QueryGateway

/-- What a client sent. -/
structure Submission where
  document : Option String := none
  expression : Option String := none
deriving DecidableEq, Repr, Inhabited

/-- A query that may be run. -/
structure Query where
  /-- The input document, handed to the engine as it is. -/
  document : String
  /-- The query expression, one argument of the engine. -/
  expression : String
  document_ne_empty : document ≠ ""
  expression_ne_empty : expression ≠ ""
deriving DecidableEq, Repr

namespace Submission

/-- The name under which the document travels. -/
def documentKey : String := "json_data"

/-- The name under which the expression travels. -/
def expressionKey : String := "query_string"

/-- The query of a submission; an empty field counts as missing. -/
def validate (s : Submission) : Except Refusal Query :=
  match s.document, s.expression with
  | some document, some expression =>
    if hd : document = "" then .error .missingFields
    else if he : expression = "" then .error .missingFields
    else .ok ⟨document, expression, hd, he⟩
  | _, _ => .error .missingFields

/-- An optional string as it is written: absent is `null`. -/
def renderField : Option String → String
  | none => "null"
  | some s => Json.quoted s

/-- The text of a submission, with both fields. -/
def render (s : Submission) : String :=
  "\x7b\"json_data\":" ++ renderField s.document ++ ",\"query_string\":" ++ renderField s.expression ++ "\x7d"

end Submission

/-- The submission of a query. -/
def Query.submission (q : Query) : Submission :=
  ⟨some q.document, some q.expression⟩

/-- A query's own submission is that query again. -/
theorem Query.validate_submission (q : Query) : q.submission.validate = .ok q := by
  simp [Query.submission, Submission.validate, q.document_ne_empty, q.expression_ne_empty]

end QueryGateway
