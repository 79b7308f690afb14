import QueryGateway.Json.Value

/-!
# The health report

Which engines can be found and where they are looked for.
-/

namespace QueryGateway

/-- What the gateway says about itself. -/
structure Health where
  status : String := "ok"
  queryAvailable : Bool
  queryPath : String
  visualizationAvailable : Bool
  visualizationPath : String
deriving DecidableEq, Repr, Inhabited

namespace Health

/-- A truth value as it is written. -/
def renderBool (b : Bool) : String := if b then "true" else "false"

/-- The text of the report on the wire. -/
def render (h : Health) : String :=
  let fields : List (String × String) :=
    [("status", Json.quoted h.status), ("jqlite_available", renderBool h.queryAvailable),
     ("jqlite_path", Json.quoted h.queryPath), ("visualization_available", renderBool h.visualizationAvailable),
     ("visualization_path", Json.quoted h.visualizationPath)]
  "\x7b" ++ String.intercalate "," (fields.map fun (k, v) => Json.quoted k ++ ":" ++ v) ++ "\x7d"

end Health

end QueryGateway
