/-!
# What a request is for

A target is a path with a query behind a question mark. In its long form it also names the scheme and the host it was
meant for. A fragment behind a number sign is left to the client and is no part of it.
-/

namespace QueryGateway.Http

/-- A target: the scheme and the host in front of the path, if it names them, the path, and the query. -/
structure Target where
  origin : String := ""
  path : String
  query : Option String := none
deriving DecidableEq, Repr, Inhabited

namespace Target

/-- Whether a character may stand in the name of a scheme. -/
def isSchemeChar (c : Char) : Bool :=
  c.isAlphanum || c = '+' || c = '-' || c = '.'

/-- How a scheme is written: those of the web in lower case, any other as it stands. -/
def scheme (name : List Char) : List Char :=
  let lower := name.map Char.toLower
  if lower = "http".toList ∨ lower = "https".toList then lower else name

/-- The scheme and the host at the front of a target, with what lies between and behind them, and the rest. A target
that does not start with a scheme names neither. -/
def splitOrigin (cs : List Char) : List Char × List Char :=
  match cs.dropWhile isSchemeChar with
  | ':' :: '/' :: '/' :: rest =>
    let host := rest.takeWhile fun c => c ≠ '/' && c ≠ '?' && c ≠ '#'
    (scheme (cs.takeWhile isSchemeChar) ++ "://".toList ++ host, rest.drop host.length)
  | _ => ([], cs)

/-- Reads a target. The path is a slash if it is empty behind a host. -/
def ofString (s : String) : Target :=
  let (origin, rest) := splitOrigin s.toList
  let rest := rest.takeWhile (· ≠ '#')
  let path := rest.takeWhile (· ≠ '?')
  { origin := String.ofList origin
    path := if path = [] && origin ≠ [] then "/" else String.ofList path
    query := match rest.dropWhile (· ≠ '?') with
      | [] => none
      | _ :: query => some (String.ofList query) }

/-- The target with a slash behind its path. -/
def withSlash (t : Target) : Target :=
  { t with path := t.path ++ "/" }

/-- A target as it is written. -/
def render (t : Target) : String :=
  t.origin ++ t.path ++ (t.query.map ("?" ++ ·)).getD ""

end Target

end QueryGateway.Http
