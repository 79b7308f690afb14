import QueryGateway.Gateway.Submission
import QueryGateway.Json.Passing
import QueryGateway.Json.Shape

/-!
# Reading a submission

A submission is an object with the two keys, each at most once and anything else ignored, or a list of up to two
values in the order document, expression. The first flaw in reading order counts.
-/

namespace QueryGateway

open Json (Flaw Source)

namespace Submission

/-- The fields met so far; a field met with `null` is there and holds nothing. -/
structure Fields where
  document : Option (Option String) := none
  expression : Option (Option String) := none

/-- The submission with the fields met; what was not met is absent. -/
def Fields.submission (fields : Fields) : Submission :=
  ⟨fields.document.join, fields.expression.join⟩

/-- The value of a key, behind its colon. -/
def fieldValue (s : Source) : Except Flaw (Option String × Source) :=
  match s.colon with
  | .error f => .error f
  | .ok s => Json.optionalString s

/-- The member whose key has been read: one of the two fields, which must be new, or something to pass over. -/
def member (fuel : Nat) (key : String) (fields : Fields) (s : Source) : Except Flaw (Fields × Source) :=
  if key = documentKey then
    if fields.document.isSome then .error .mistyped
    else (fieldValue s).map fun (v, rest) => (⟨some v, fields.expression⟩, rest)
  else if key = expressionKey then
    if fields.expression.isSome then .error .mistyped
    else (fieldValue s).map fun (v, rest) => (⟨fields.document, some v⟩, rest)
  else
    match s.colon with
    | .error f => .error f
    | .ok s => (Json.passValue fuel s).map fun rest => (fields, rest)

/-- The members of the object form. `moves` bounds the passing over of one member, `fuel` the number of members. -/
def members (moves : Nat) : Nat → Bool → Fields → Source → Except Flaw (Submission × Source)
  | 0, _, _, _ => .error .truncated
  | fuel + 1, first, fields, s =>
    match s.nextKey first with
    | .error f => .error f
    | .ok (.inr rest) => .ok (fields.submission, rest)
    | .ok (.inl s) =>
      match Json.string s with
      | .error f => .error f
      | .ok (key, s) =>
        match member moves key fields s with
        | .error f => .error f
        | .ok (fields, rest) => members moves fuel false fields rest

/-- The next value of the list form, if there is one. -/
def item (first : Bool) (s : Source) : Except Flaw (Option (Option String) × Source) :=
  match s.nextItem first with
  | .error f => .error f
  | .ok none => .ok (none, s)
  | .ok (some s) => (Json.optionalString s).map fun (v, rest) => (some v, rest)

/-- The values of the list form. -/
def items (s : Source) : Except Flaw (Submission × Source) := do
  let (document, s) ← item true s
  let (expression, s) ← item document.isNone s
  let rest ← s.closeList
  .ok (⟨document.join, expression.join⟩, rest)

/-- The submission at the front of a text, and what follows it. -/
def read (s : Source) : Except Flaw (Submission × Source) :=
  match s.skipGap with
  | [] => .error .truncated
  | p :: rest =>
    if p = .char '[' then items rest
    else if p = .char '\x7b' then members (Json.passingMoves s.length) (s.length + 1) true {} rest
    else .error (Json.unwanted (p :: rest))

/-- The submission that a byte string holds and nothing else. -/
def parse (bytes : Bytes) : Except Flaw Submission := do
  let (submission, rest) ← read (Text.segments bytes)
  rest.ended
  .ok submission

end Submission

end QueryGateway
