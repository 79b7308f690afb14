/-!
# Characters in byte strings

A byte string is cut into whole characters and maximal ill-formed parts. Everything that reads bytes as text goes
through this one cut: the lossy reading shows each ill-formed part as one replacement character, the strict reading
refuses any.
-/

namespace QueryGateway

/-- A byte string: the form in which paths, environment values and engine output arrive. -/
abbrev Bytes := List UInt8

namespace Text

/-- A piece of a byte string: a whole character, or a maximal run of bytes that starts a character and does not finish
it. -/
inductive Segment where
  | char (c : Char)
  | broken (part : Bytes)
deriving DecidableEq, Repr, Inhabited

/-- A character that has begun: the bytes so far (newest first), the value they carry, how many bytes are still owed,
and the range in which the next one must lie. -/
structure Begun where
  part : Bytes
  value : Nat
  owed : Nat
  low : UInt8 := 0x80
  high : UInt8 := 0xBF
deriving DecidableEq, Repr

/-- What a first byte announces: a whole character, a longer one, or nothing that could start a character. -/
inductive Lead where
  | whole (c : Char)
  | begun (b : Begun)
  | stray

/-- The shapes of a first byte. The ranges of the second byte leave out overlong forms, surrogates and values past the
last code point. -/
def lead (b : UInt8) : Lead :=
  if b < 0x80 then .whole (Char.ofNat b.toNat)
  else if b < 0xC2 then .stray
  else if b < 0xE0 then .begun { part := [b], value := b.toNat - 0xC0, owed := 1 }
  else if b = 0xE0 then .begun { part := [b], value := 0, owed := 2, low := 0xA0 }
  else if b = 0xED then .begun { part := [b], value := 13, owed := 2, high := 0x9F }
  else if b < 0xF0 then .begun { part := [b], value := b.toNat - 0xE0, owed := 2 }
  else if b = 0xF0 then .begun { part := [b], value := 0, owed := 3, low := 0x90 }
  else if b < 0xF4 then .begun { part := [b], value := b.toNat - 0xF0, owed := 3 }
  else if b = 0xF4 then .begun { part := [b], value := 4, owed := 3, high := 0x8F }
  else .stray

/-- A cut in progress: the finished pieces (newest first) and the character that has begun, if any. -/
structure Cut where
  done : List Segment := []
  begun : Option Begun := none
deriving DecidableEq, Repr

namespace Cut

/-- A byte taken when no character has begun. -/
def start (done : List Segment) (b : UInt8) : Cut :=
  match lead b with
  | .whole c => { done := .char c :: done }
  | .begun p => { done := done, begun := some p }
  | .stray => { done := .broken [b] :: done }

/-- One byte: it continues the character that has begun, or closes it as ill-formed and starts afresh. -/
def step (cut : Cut) (b : UInt8) : Cut :=
  match cut.begun with
  | none => start cut.done b
  | some p =>
    if p.low ≤ b ∧ b ≤ p.high then
      let value := p.value * 64 + (b.toNat - 0x80)
      if p.owed ≤ 1 then { done := .char (Char.ofNat value) :: cut.done }
      else { done := cut.done, begun := some { part := b :: p.part, value := value, owed := p.owed - 1 } }
    else start (.broken p.part.reverse :: cut.done) b

/-- The pieces once the bytes have ended: a character that has only begun is an ill-formed part. -/
def finish (cut : Cut) : List Segment :=
  match cut.begun with
  | none => cut.done.reverse
  | some p => (.broken p.part.reverse :: cut.done).reverse

end Cut

/-- The pieces of a byte string, in order. -/
def segments (bs : Bytes) : List Segment :=
  (bs.foldl Cut.step {}).finish

/-- The character that stands for an ill-formed part. -/
def replacement : Char := '\ufffd'

namespace Segment

/-- How a piece is shown: an ill-formed part as one replacement character. -/
def shown : Segment → Char
  | char c => c
  | broken _ => replacement

/-- The character a piece is, if it is one. -/
def char? : Segment → Option Char
  | char c => some c
  | broken _ => none

/-- How many bytes a piece takes. -/
def size : Segment → Nat
  | char c => c.utf8Size
  | broken part => part.length

end Segment

/-- The text of a byte string, each ill-formed part replaced by one replacement character. -/
def lossy (bs : Bytes) : String :=
  String.ofList ((segments bs).map Segment.shown)

/-- The text of a byte string that is well-formed throughout. -/
def decode? (bs : Bytes) : Option String :=
  ((segments bs).mapM Segment.char?).map String.ofList

/-- The bytes of a text. -/
def encode (s : String) : Bytes :=
  s.toList.flatMap String.utf8EncodeChar

/-- A text as pieces: its characters, none of them ill-formed. -/
def pieces (s : String) : List Segment :=
  s.toList.map Segment.char

end Text

end QueryGateway
