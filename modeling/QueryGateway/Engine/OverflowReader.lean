import QueryGateway.Engine.Bounds
import QueryGateway.Json.Shape

/-!
# The overflow choice as a document

The choice is written as its name, and read as its name or as an object with that one name as key and `null` as value.
-/

namespace QueryGateway.Overflow

open Json (Flaw Source)

/-- The text of a choice. -/
def render (choice : Overflow) : String :=
  Json.quoted choice.name

/-- The choice that a string of a document names. -/
def ofString (s : String) : Except Flaw Overflow :=
  match named? s with
  | some choice => .ok choice
  | none => .error .mistyped

/-- The object form, behind its brace. -/
def readObject (s : Source) : Except Flaw (Overflow × Source) :=
  match s.skipGap with
  | [] => .error .truncated
  | p :: rest =>
    if p = .char '"' then do
      let (name, s) ← Json.string rest
      let choice ← ofString name
      let s ← s.colon
      let s ← Json.unit s
      match s.skipGap with
      | [] => .error .truncated
      | q :: after => if q = .char '\x7d' then .ok (choice, after) else .error .malformed
    else .error (Json.unwanted (p :: rest))

/-- The choice at the front of a text, and what follows it. -/
def read (s : Source) : Except Flaw (Overflow × Source) :=
  match s.skipGap with
  | [] => .error .truncated
  | p :: rest =>
    if p = .char '\x7b' then readObject rest
    else if p = .char '"' then do
      let (name, s) ← Json.string rest
      let choice ← ofString name
      .ok (choice, s)
    else .error .malformed

/-- The choice that a text holds and nothing else. -/
def parse (text : String) : Except Flaw Overflow := do
  let (choice, rest) ← read (Text.pieces text)
  rest.ended
  .ok choice

end QueryGateway.Overflow
