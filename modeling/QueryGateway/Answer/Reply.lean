import QueryGateway.Json.Value

/-!
# Replies

The one reply to a query. On the wire each kind is a flat document: a result, an error, the trace itself, or a
diagnostic whose optional parts are left out when absent.
-/

namespace QueryGateway

/-- What a client is told about its query. -/
inductive Reply where
  | result (text : String)
  | failure (error : String)
  | trace (document : Json.Value)
  | traceFailure (error : String) (rawOutput : Option String) (stderr : Option String)
deriving Repr, Inhabited

namespace Reply

/-- A diagnostic with nothing but its error. -/
def bareTraceFailure (error : String) : Reply :=
  traceFailure error none none

/-- Whether a reply is good news. -/
def isSuccess : Reply → Bool
  | result _ => true
  | trace _ => true
  | failure _ => false
  | traceFailure _ _ _ => false

/-- The error that a reply tells of. -/
def error? : Reply → Option String
  | failure error => some error
  | traceFailure error _ _ => some error
  | result _ => none
  | trace _ => none

/-- A flat document of strings, in the order given. -/
def renderFields (fields : List (String × String)) : String :=
  "\x7b" ++ String.intercalate "," (fields.map fun (k, v) => Json.quoted k ++ ":" ++ Json.quoted v) ++ "\x7d"

/-- The fields of an optional string. -/
def optionalField (key : String) : Option String → List (String × String)
  | none => []
  | some value => [(key, value)]

/-- The text of a reply on the wire. -/
def render : Reply → String
  | result text => renderFields [("result", text)]
  | failure error => renderFields [("error", error)]
  | trace document => document.render
  | traceFailure error rawOutput stderr =>
    renderFields (("error", error) :: (optionalField "raw_output" rawOutput ++ optionalField "stderr" stderr))

end Reply

end QueryGateway
