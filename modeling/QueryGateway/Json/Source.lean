import QueryGateway.Text.Utf8
import QueryGateway.Json.Flaw

/-!
# The text a reader consumes

Readers take pieces of a byte string from the front and hand back what is left. Blanks, fixed words and the ends of
lists and objects are read here; each rule says which flaw an early end of the text is and which a wrong character is.
-/

namespace QueryGateway.Json

open Text (Segment)

/-- What is left of a document: its pieces in order. -/
abbrev Source := List Segment

/-- The four characters that may stand between tokens. -/
def isGap : Segment → Bool
  | .char c => c = ' ' || c = '\t' || c = '\n' || c = '\r'
  | .broken _ => false

namespace Source

/-- The text without the gap in front of its next token. -/
def skipGap (s : Source) : Source :=
  s.dropWhile isGap

/-- Whether at least `n` bytes are left. -/
def holds : Nat → Source → Bool
  | 0, _ => true
  | _ + 1, [] => false
  | n + 1, p :: rest => holds (n + 1 - p.size) rest
termination_by _ s => s.length

/-- Takes the rest of a fixed word whose first letter has been seen. -/
def word : List Char → Source → Except Flaw Source
  | [], s => .ok s
  | _ :: _, [] => .error .truncated
  | c :: cs, p :: rest => if p = .char c then word cs rest else .error .malformed

/-- Nothing but a gap may follow a document that must fill its text. -/
def ended (s : Source) : Except Flaw Unit :=
  match s.skipGap with
  | [] => .ok ()
  | _ :: _ => .error .malformed

/-- The colon between a key and its value. -/
def colon (s : Source) : Except Flaw Source :=
  match s.skipGap with
  | [] => .error .truncated
  | p :: rest => if p = .char ':' then .ok rest else .error .malformed

/-- Before an item of a list: the text at its first character, or nothing when the list is over, its bracket not yet
taken. A comma must be followed by another item. -/
def nextItem (first : Bool) (s : Source) : Except Flaw (Option Source) :=
  match s.skipGap with
  | [] => .error .truncated
  | p :: rest =>
    if p = .char ']' then .ok none
    else if first then .ok (some (p :: rest))
    else if p = .char ',' then
      match skipGap rest with
      | [] => .error .truncated
      | q :: after => if q = .char ']' then .error .malformed else .ok (some (q :: after))
    else .error .malformed

/-- Before a member of an object: the text behind the quote that opens its key, or nothing when the object is over,
with the text behind its brace. -/
def nextKey (first : Bool) (s : Source) : Except Flaw (Source ⊕ Source) :=
  match s.skipGap with
  | [] => .error .truncated
  | p :: rest =>
    if p = .char '}' then .ok (.inr rest)
    else
      let key : Source → Except Flaw (Source ⊕ Source)
        | [] => .error .truncated
        | q :: after => if q = .char '"' then .ok (.inl after) else .error .malformed
      if first then key (p :: rest)
      else if p = .char ',' then key (skipGap rest)
      else .error .malformed

/-- The bracket that closes a list of which no further item is wanted. -/
def closeList (s : Source) : Except Flaw Source :=
  match s.skipGap with
  | [] => .error .truncated
  | p :: rest => if p = .char ']' then .ok rest else .error .malformed

end Source

end QueryGateway.Json
