import QueryGateway.Text.Utf8

/-!
# The environment of an engine

An engine sees only the variables whose names are on an allowlist. Names and values that are no text are never passed
on.
-/

namespace QueryGateway

/-- The variables of a process: names and values, both byte strings. -/
abbrev Environment := List (Bytes × Bytes)

namespace Environment

/-- The names passed on unless the settings say otherwise. -/
def standardAllowlist : List String :=
  ["PATH", "HOME", "USER", "LANG", "LC_ALL", "TMPDIR"]

/-- A variable as text, if both its name and its value are. -/
def texts? (entry : Bytes × Bytes) : Option (String × String) :=
  match Text.decode? entry.1, Text.decode? entry.2 with
  | some name, some value => some (name, value)
  | _, _ => none

/-- The variables among these whose names are on the allowlist. -/
def allowed (allowlist : List String) (bindings : List (String × String)) : List (String × String) :=
  bindings.filter fun (name, _) => allowlist.contains name

/-- The environment of a child: the variables of its parent that are text and on the allowlist. -/
def forChild (allowlist : List String) (environment : Environment) : List (String × String) :=
  allowed allowlist (environment.filterMap texts?)

end Environment

end QueryGateway
