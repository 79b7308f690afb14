import QueryGateway.Text.Blank

/-!
# How the log is written
-/

namespace QueryGateway

/-- The form of the log: laid out for reading, or one document a line. -/
inductive LogFormat where
  | pretty
  | json
deriving DecidableEq, Repr, Inhabited

namespace LogFormat

/-- The form that a setting names; case and blanks around it do not matter. An unknown name comes back as it was
compared. -/
def ofSetting (s : String) : Except String LogFormat :=
  let word := Text.lowerAscii (Text.trim s)
  if word = "pretty" then .ok pretty
  else if word = "json" then .ok json
  else .error word

/-- The wording for an unknown name. -/
def unknown (word : String) : String :=
  "unknown log format '" ++ word ++ "' (expected 'pretty' or 'json')"

end LogFormat

end QueryGateway
