import QueryGateway.Http.Target
import QueryGateway.Text.Utf8

/-!
# Requests and responses

The messages between a client and the gateway, with the parts that the gateway looks at. Header names are in lower case.
-/

namespace QueryGateway.Http

/-- A header: its name in lower case, and its value. -/
abbrev Header := String × String

/-- A request. Its target says what it is for. -/
structure Request where
  method : String
  target : String
  headers : List Header := []
  body : Bytes := []
deriving Repr, Inhabited

/-- A response. -/
structure Response where
  status : Nat
  headers : List Header := []
  body : Bytes := []
deriving DecidableEq, Repr, Inhabited

namespace Request

/-- The value of the first header with a name. -/
def header? (r : Request) (name : String) : Option String :=
  r.headers.lookup name

/-- The path that a request is for. -/
def path (r : Request) : String :=
  (Target.ofString r.target).path

end Request

namespace Response

/-- A response without a body. -/
def empty (status : Nat) (headers : List Header) : Response :=
  { status := status, headers := headers }

/-- A document as a response. -/
def document (status : Nat) (text : String) : Response :=
  { status := status, headers := [("content-type", "application/json")], body := Text.encode text }

/-- A response with more headers. -/
def withHeaders (r : Response) (headers : List Header) : Response :=
  { r with headers := r.headers ++ headers }

/-- A response to a request that wants no body. -/
def withoutBody (r : Response) : Response :=
  { r with body := [] }

end Response

end QueryGateway.Http
