import QueryGateway.Json.Number
import QueryGateway.Json.Quoted

/-!
# Passing over a value

A value that nobody wants is passed over by a machine that keeps its open lists and objects on a stack. It is more
lenient than the reader: no limit on nesting, no range for numbers, no check of a string's bytes or surrogates. A
number that breaks off is malformed here, not truncated.
-/

namespace QueryGateway.Json

open Text (Segment)

namespace Passing

/-- What is open: a list or an object. -/
inductive Frame where
  | list
  | object
deriving DecidableEq, Repr

/-- The character that closes a frame. -/
def Frame.closer : Frame → Char
  | list => ']'
  | object => '\x7d'

/-- What comes next: a value, the first thing inside a frame just opened, or what follows a value. -/
inductive Mode where
  | value
  | opened
  | after
deriving DecidableEq, Repr

/-- The machine: what comes next, the open frames (innermost first), and the text left. -/
structure State where
  mode : Mode
  frames : List Frame
  left : Source

/-- A number, behind its sign. -/
def number (s : Source) : Except Flaw Source :=
  match numeral false s with
  | .ok (_, rest) => .ok rest
  | .error _ => .error .malformed

/-- What stands before the value of an item: nothing in a list, a key and a colon in an object. -/
def label : Frame → Source → Except Flaw Source
  | .list, s => .ok s
  | .object, s =>
    match s.skipGap with
    | [] => .error .truncated
    | p :: rest =>
      if p = .char '"' then
        match passString rest with
        | .error f => .error f
        | .ok rest => rest.colon
      else .error .malformed

/-- A value begins: a scalar is passed over, a list or an object is opened. -/
def begin (frames : List Frame) (s : Source) : Except Flaw State :=
  let passed (outcome : Except Flaw Source) : Except Flaw State := outcome.map (State.mk .after frames)
  match s.skipGap with
  | [] => .error .truncated
  | .broken _ :: _ => .error .malformed
  | .char c :: rest =>
    if c = 'n' then passed (Source.word ['u', 'l', 'l'] rest)
    else if c = 't' then passed (Source.word ['r', 'u', 'e'] rest)
    else if c = 'f' then passed (Source.word ['a', 'l', 's', 'e'] rest)
    else if c = '"' then passed (passString rest)
    else if c = '-' then passed (number rest)
    else if c.isDigit then passed (number (.char c :: rest))
    else if c = '[' then .ok ⟨.opened, .list :: frames, rest⟩
    else if c = '\x7b' then .ok ⟨.opened, .object :: frames, rest⟩
    else .error .malformed

/-- Inside the innermost frame: it closes, or another item follows, behind a comma unless it is the first. -/
def inside (frame : Frame) (outer : List Frame) (first : Bool) (s : Source) : Except Flaw State :=
  let item (s : Source) : Except Flaw State := (label frame s).map (State.mk .value (frame :: outer))
  match s.skipGap with
  | [] => .error .truncated
  | p :: rest =>
    if p = .char frame.closer then .ok ⟨.after, outer, rest⟩
    else if first then item (p :: rest)
    else if p = .char ',' then item rest
    else .error .malformed

/-- One move of the machine; `none` when the value is over. -/
def step (st : State) : Except Flaw (Option State) :=
  match st.mode, st.frames with
  | .value, frames => (begin frames st.left).map some
  | _, [] => .ok none
  | .opened, frame :: outer => (inside frame outer true st.left).map some
  | .after, frame :: outer => (inside frame outer false st.left).map some

/-- Runs the machine until the value is over. -/
def run : Nat → State → Except Flaw Source
  | 0, _ => .error .truncated
  | fuel + 1, st =>
    match step st with
    | .error f => .error f
    | .ok none => .ok st.left
    | .ok (some next) => run fuel next

end Passing

/-- How many moves a text of this length may need: of two moves in a row at least one takes a character. -/
def passingMoves (length : Nat) : Nat := 2 * length + 2

/-- What follows the value at the front of a text. -/
def passValue (fuel : Nat) (s : Source) : Except Flaw Source :=
  Passing.run fuel ⟨.value, [], s⟩

end QueryGateway.Json
