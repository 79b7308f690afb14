import QueryGateway.Json.Value

/-!
# Documents for readers

The text of a document with every item and member on a line of its own, two blanks deeper than what it lies in. An
empty list or object stays on its line.
-/

namespace QueryGateway.Json.Value

/-- A new line at a depth. -/
def newLine (depth : Nat) (out : String) : String :=
  out ++ String.ofList ('\n' :: List.replicate (2 * depth) ' ')

mutual

/-- Appends the spread text of a document that lies at a depth. -/
def spread (depth : Nat) (out : String) : Value → String
  | list [] => out ++ "[]"
  | list (v :: items) => (newLine depth (spreadItems (depth + 1) (out.push '[') true (v :: items))).push ']'
  | object [] => out ++ "\x7b\x7d"
  | object (m :: members) =>
    (newLine depth (spreadMembers (depth + 1) (out.push '\x7b') true (m :: members))).push '\x7d'
  | null => write out null
  | bool b => write out (bool b)
  | number n => write out (number n)
  | text s => write out (text s)

/-- Appends items, each on its line. -/
def spreadItems (depth : Nat) (out : String) (first : Bool) : List Value → String
  | [] => out
  | v :: rest => spreadItems depth (spread depth (newLine depth (if first then out else out.push ',')) v) false rest

/-- Appends members, each on its line. -/
def spreadMembers (depth : Nat) (out : String) (first : Bool) : List (String × Value) → String
  | [] => out
  | (k, v) :: rest =>
    let out := newLine depth (if first then out else out.push ',') ++ quoted k ++ ": "
    spreadMembers depth (spread depth out v) false rest

end

/-- The text of a document for readers. -/
def pretty (v : Value) : String :=
  spread 0 "" v

end QueryGateway.Json.Value
