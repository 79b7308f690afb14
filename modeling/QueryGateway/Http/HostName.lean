import QueryGateway.Http.Ip
import QueryGateway.Text.Blank

/-!
# Names of hosts

What a host's text stands for: an address as it is written, a name that this machine knows, or a name that somebody
else would have to be asked about. Nobody is there to be asked.
-/

namespace QueryGateway.Http

/-- Why a host's text stands for no address. -/
inductive LookupFault where
  /-- A character of it cannot be passed on. -/
  | unusable
  /-- It is no name. -/
  | unknown
  /-- It is a name, and nobody tells its address. -/
  | unanswered
deriving DecidableEq, Repr

/-- The wording of a failed lookup. -/
def LookupFault.message : LookupFault → String
  | unusable => "file name contained an unexpected NUL byte"
  | unknown => "failed to lookup address information: Name or service not known"
  | unanswered => "failed to lookup address information: Temporary failure in name resolution"

/-- What a machine knows of names. -/
structure NameBook where
  hosts : List (String × Ip) := [("localhost", Ip.loopback)]
  /-- The interfaces by their names. -/
  interfaces : List (String × Nat) := [("lo", 1)]
deriving Repr, Inhabited

namespace HostName

/-- Whether a character may stand in a name. -/
def isNameChar (c : Char) : Bool :=
  c.isAlphanum || c = '-' || c = '_'

/-- A name without its escapes: a backslash in front of a letter says nothing. -/
def unescaped : List Char → List Char
  | [] => []
  | [c] => [c]
  | c :: d :: rest => if c = '\\' && d.isAlpha then d :: unescaped rest else c :: unescaped (d :: rest)

/-- Whether a text is a name: labels of up to 63 characters with dots between them and with room for their lengths in
255 bytes. A dot may end it, and may be all of it; a hyphen may not start it. -/
def isName (name : List Char) : Bool :=
  let cs := unescaped name
  let whole := if cs.getLast? = some '.' then cs.dropLast else cs
  let labels := Text.fields '.' whole
  cs = ['.'] || (cs.head? ≠ some '-' && labels.all (fun label =>
    label ≠ [] && label.length ≤ 63 && label.all isNameChar) && whole.length + 2 ≤ 255)

/-- The number of an interface: by its name where an address belongs to one wire, or as it is. -/
def interface? (book : NameBook) (groups : List UInt16) (cs : List Char) : Option Nat :=
  let onWire := Ip.isLocalToWire groups || Ip.isForGroupOnWire groups
  (if onWire then book.interfaces.lookup (String.ofList cs) else none).or ((Ip.digits? 10 cs).filter (· < UInt32.size))

/-- An address of eight groups, with the interface behind a percent sign or without. -/
def v6? (book : NameBook) (cs : List Char) : Option Ip := do
  let groups ← Ip.v6OfChars? (cs.takeWhile (· ≠ '%'))
  match cs.dropWhile (· ≠ '%') with
  | [] => return .v6 groups 0
  | _ :: name => return .v6 groups (← interface? book groups name)

/-- An address of eight groups in brackets; the interface may only be named by its number. -/
def bracketed? (cs : List Char) : Option Ip :=
  match cs with
  | '[' :: rest => if rest.getLast? = some ']' then v6? { interfaces := [] } rest.dropLast else none
  | _ => none

/-- The address that a host's text stands for. -/
def lookup (book : NameBook) (host : String) : Except LookupFault Ip :=
  let cs := host.toList
  match bracketed? cs with
  | some ip => .ok ip
  | none =>
    if cs.contains '\x00' then .error .unusable
    else
      match (Ip.v4OfChars? cs).or ((v6? book cs).or (book.hosts.lookup (Text.lowerAscii host))) with
      | some ip => .ok ip
      | none => .error (if isName cs then .unanswered else .unknown)

end HostName

end QueryGateway.Http
