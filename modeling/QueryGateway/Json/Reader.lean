import QueryGateway.Json.Value

/-!
# Reading any document

A strict reader: the grammar is followed to the letter, numbers must be in range, strings well-formed, and at most 127
lists and objects may be open at once. The one value at the front of a text is read; whether anything may follow is
for the caller to say.
-/

namespace QueryGateway.Json

open Text (Segment)

/-- How many lists and objects may be open at once. -/
def maxDepth : Nat := 127

namespace Reader

/-- The items of a list, up to and with its closing bracket. `item` reads one of them; `acc` holds those read, newest
first. -/
def items (item : Source → Except Flaw (Value × Source)) :
    Nat → Bool → List Value → Source → Except Flaw (List Value × Source)
  | 0, _, _, _ => .error .truncated
  | fuel + 1, first, acc, s =>
    match s.nextItem first with
    | .error f => .error f
    | .ok none =>
      match s.closeList with
      | .error f => .error f
      | .ok rest => .ok (acc.reverse, rest)
    | .ok (some s) =>
      match item s with
      | .error f => .error f
      | .ok (v, rest) => items item fuel false (v :: acc) rest

/-- The members of an object, up to and with its closing brace. -/
def members (item : Source → Except Flaw (Value × Source)) :
    Nat → Bool → List (String × Value) → Source → Except Flaw (List (String × Value) × Source)
  | 0, _, _, _ => .error .truncated
  | fuel + 1, first, acc, s =>
    match s.nextKey first with
    | .error f => .error f
    | .ok (.inr rest) => .ok (acc.reverse, rest)
    | .ok (.inl s) =>
      match string s with
      | .error f => .error f
      | .ok (key, s) =>
        match s.colon with
        | .error f => .error f
        | .ok s =>
          match item s with
          | .error f => .error f
          | .ok (v, rest) => members item fuel false ((key, v) :: acc) rest

/-- A fixed word that stands for a value. -/
def constant (letters : List Char) (v : Value) (s : Source) : Except Flaw (Value × Source) :=
  match s.word letters with
  | .error f => .error f
  | .ok rest => .ok (v, rest)

/-- A value that holds no other, by its first character; `none` when the character starts no such value. -/
def scalar (c : Char) (s rest : Source) : Option (Except Flaw (Value × Source)) :=
  if c = 'n' then some (constant ['u', 'l', 'l'] .null rest)
  else if c = 't' then some (constant ['r', 'u', 'e'] (.bool true) rest)
  else if c = 'f' then some (constant ['a', 'l', 's', 'e'] (.bool false) rest)
  else if c = '"' then some ((string rest).map fun (t, after) => (.text t, after))
  else if c = '-' then some ((number true rest).map fun (n, after) => (.number n, after))
  else if c.isDigit then some ((number false s).map fun (n, after) => (.number n, after))
  else none

/-- The value at the front of a text, with at most `depth` lists and objects open inside. `fuel` bounds the number of
items of one list; the length of the text is enough. -/
def value (fuel : Nat) : Nat → Source → Except Flaw (Value × Source)
  | depth, s =>
    match s.skipGap with
    | [] => .error .truncated
    | .broken _ :: _ => .error .malformed
    | .char c :: rest =>
      match scalar c (.char c :: rest) rest with
      | some outcome => outcome
      | none =>
        match depth with
        | 0 => .error .malformed
        | depth + 1 =>
          if c = '[' then (items (value fuel depth) fuel true [] rest).map fun (vs, after) => (.list vs, after)
          else if c = '\x7b' then
            (members (value fuel depth) fuel true [] rest).map fun (ms, after) => (.object (Members.ofList ms), after)
          else .error .malformed

end Reader

/-- The document at the front of a text, and what follows it. -/
def readValue (s : Source) : Except Flaw (Value × Source) :=
  Reader.value (s.length + 1) maxDepth s

/-- The document that fills what is left of a text. -/
def readWhole (s : Source) : Except Flaw Value :=
  match readValue s with
  | .error f => .error f
  | .ok (v, rest) =>
    match rest.ended with
    | .error f => .error f
    | .ok () => .ok v

/-- The document that a text holds and nothing else. -/
def parse (text : String) : Except Flaw Value :=
  readWhole (Text.pieces text)

/-- The document that a byte string holds and nothing else. -/
def parseBytes (bytes : Bytes) : Except Flaw Value :=
  readWhole (Text.segments bytes)

end QueryGateway.Json
