import QueryGateway.Json.Number
import QueryGateway.Json.Quoted

/-!
# Values of a wanted shape

A reader that wants a string and meets something else says that the value is mistyped, but only after it has read that
something: the flaw of a broken number, word or string comes first. A list or an object is refused unread.
-/

namespace QueryGateway.Json

/-- The flaw of an outcome that must not count as a value: its own, or else that it is mistyped. -/
def mistypedUnless {α : Type} : Except Flaw α → Flaw
  | .error f => f
  | .ok _ => .mistyped

/-- The flaw of the value at the front of a text when it is not of the wanted shape. -/
def unwanted (s : Source) : Flaw :=
  match s with
  | [] => .malformed
  | .broken _ :: _ => .malformed
  | .char c :: rest =>
    if c = 'n' then mistypedUnless (Source.word ['u', 'l', 'l'] rest)
    else if c = 't' then mistypedUnless (Source.word ['r', 'u', 'e'] rest)
    else if c = 'f' then mistypedUnless (Source.word ['a', 'l', 's', 'e'] rest)
    else if c = '-' then mistypedUnless (number true rest)
    else if c.isDigit then mistypedUnless (number false (.char c :: rest))
    else if c = '"' then mistypedUnless (string rest)
    else if c = '[' ∨ c = '\x7b' then .mistyped
    else .malformed

/-- A string, or `null` for none. -/
def optionalString (s : Source) : Except Flaw (Option String × Source) :=
  match s.skipGap with
  | [] => .error .truncated
  | .broken _ :: _ => .error .malformed
  | .char c :: rest =>
    if c = 'n' then (Source.word ['u', 'l', 'l'] rest).map fun after => (none, after)
    else if c = '"' then (string rest).map fun (t, after) => (some t, after)
    else .error (unwanted (.char c :: rest))

/-- Reads `null` and nothing else. -/
def unit (s : Source) : Except Flaw Source :=
  match s.skipGap with
  | [] => .error .truncated
  | .broken _ :: _ => .error .malformed
  | .char c :: rest =>
    if c = 'n' then Source.word ['u', 'l', 'l'] rest else .error (unwanted (.char c :: rest))

end QueryGateway.Json
