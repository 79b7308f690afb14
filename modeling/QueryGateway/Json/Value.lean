import QueryGateway.Json.Number
import QueryGateway.Json.Quoted

/-!
# Documents

A document as a value, and its compact text. Members of an object are kept sorted by key, each key once;
`Members.insert` keeps them so, a later value replacing an earlier one.
-/

namespace QueryGateway.Json

/-- A document. -/
inductive Value where
  | null
  | bool (b : Bool)
  | number (n : Number)
  | text (s : String)
  | list (items : List Value)
  | object (members : List (String × Value))
deriving Repr, Inhabited

namespace Members

/-- Gives a key its value: a key that is there keeps its place and takes the new value, another goes to its place in the
order of code points. -/
def insert {α : Type} (key : String) (value : α) : List (String × α) → List (String × α)
  | [] => [(key, value)]
  | (k, v) :: rest =>
    if key = k then (key, value) :: rest
    else if key < k then (key, value) :: (k, v) :: rest
    else (k, v) :: insert key value rest

/-- Members in reading order made into the members of an object. -/
def ofList {α : Type} (members : List (String × α)) : List (String × α) :=
  members.foldl (fun sorted (k, v) => insert k v sorted) []

end Members

namespace Value

/-- The value of a member, if the document is an object that has it. -/
def get? (v : Value) (key : String) : Option Value :=
  match v with
  | object members => members.lookup key
  | _ => none

/-- The string that a document is, if it is one. -/
def text? : Value → Option String
  | text s => some s
  | _ => none

mutual

/-- Appends the compact text of a document to a text. -/
def write (out : String) : Value → String
  | null => out ++ "null"
  | bool true => out ++ "true"
  | bool false => out ++ "false"
  | number n => out ++ String.ofList n.render
  | text s => out ++ quoted s
  | list items => (writeItems (out.push '[') true items).push ']'
  | object members => (writeMembers (out.push '\x7b') true members).push '\x7d'

/-- Appends items with commas between them. -/
def writeItems (out : String) (first : Bool) : List Value → String
  | [] => out
  | v :: rest => writeItems (write (if first then out else out.push ',') v) false rest

/-- Appends members with commas between them. -/
def writeMembers (out : String) (first : Bool) : List (String × Value) → String
  | [] => out
  | (k, v) :: rest =>
    writeMembers (write (((if first then out else out.push ',') ++ quoted k).push ':') v) false rest

end

/-- The compact text of a document: no gaps, members in the order of their keys. -/
def render (v : Value) : String :=
  write "" v

end Value

end QueryGateway.Json
