import QueryGateway.Text.Fields
import QueryGateway.Text.Natural

/-!
# Byte ranges

Which part of a file a request wants: a header names one or more ranges by their first and last position, by their
first position alone, or by how many bytes from the end they hold. A header is refused as a whole if one of its ranges
is malformed, lies outside the file or overlaps another one.
-/

namespace QueryGateway.Http

/-- A range as a header names it. -/
inductive RangeSpec where
  /-- From a position to the end. -/
  | onward (first : Nat)
  /-- From a position to another one, both included. -/
  | between (first last : Nat)
  /-- So many bytes at the end. -/
  | final (count : Nat)
deriving DecidableEq, Repr

/-- Positions of a file, from the first to the last one wanted. -/
structure ByteRange where
  first : Nat
  last : Nat
deriving DecidableEq, Repr, Inhabited

namespace RangeSpec

/-- A position: digits without a needless zero in front, below 2^64. -/
def position? (cs : List Char) : Option Nat :=
  match cs with
  | [] => none
  | '0' :: _ :: _ => none
  | cs => (Text.readDigits UInt64.size 0 cs).toOption

/-- Reads one range, between the commas of a header. One blank may stand in front of it. -/
def ofChars? (cs : List Char) : Option RangeSpec :=
  if cs.getLast?.any Text.isBlank ∨ 1 < cs.countP Text.isBlank then none
  else
    match Text.splitOnce '-' (Text.trimChars cs) with
    | none => none
    | some ([], count) => ((position? count).filter (0 < ·)).map final
    | some (first, []) => (position? first).map onward
    | some (first, last) => (position? first).bind fun first => (position? last).map (between first)

/-- Reads the value of a header: the unit, which must be bytes, and the ranges. -/
def ofHeader? (value : String) : Option (List RangeSpec) :=
  match Text.splitOnce '=' value.toList with
  | none => none
  | some (unit, ranges) =>
    if unit = "bytes".toList ∧ ¬ ranges.head?.any Text.isBlank then (Text.fields ',' ranges).mapM ofChars? else none

/-- The positions that a range has in a file of some size, unless it has none there. -/
def within? (size : Nat) (r : RangeSpec) : Option ByteRange :=
  let range : Option ByteRange := match r with
    | onward first => some ⟨first, size - 1⟩
    | between first last => some ⟨first, min last (size - 1)⟩
    | final count => if size < count then none else some ⟨size - count, size - 1⟩
  range.filter fun r => r.first ≤ r.last

end RangeSpec

namespace ByteRange

/-- Whether two ranges share no position. -/
def Apart (a b : ByteRange) : Prop :=
  a.last < b.first ∨ b.last < a.first

instance (a b : ByteRange) : Decidable (Apart a b) :=
  inferInstanceAs (Decidable (_ ∨ _))

/-- The ranges that a header wants of a file of some size, unless the header is refused. -/
def wanted? (size : Nat) (value : String) : Option (List ByteRange) :=
  ((RangeSpec.ofHeader? value).bind fun specs => specs.mapM (RangeSpec.within? size)).filter fun ranges =>
    ranges.Pairwise Apart

/-- The bytes in a range. -/
def slice {α : Type} (r : ByteRange) (content : List α) : List α :=
  (content.take (r.last + 1)).drop r.first

end ByteRange

end QueryGateway.Http
