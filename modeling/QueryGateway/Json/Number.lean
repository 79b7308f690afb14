import QueryGateway.Json.Binary64
import QueryGateway.Json.Source

/-!
# Numbers of a document

A number literal is scanned into its digits first and given a value afterwards. An integer literal between -2^63 and
2^64 - 1 keeps its exact value, except that minus zero is the negative zero of the doubles; every other literal
becomes a double, or is refused when it is too large for one.
-/

namespace QueryGateway.Json

open Text (Segment)

/-- A number: an exact integer or a double. -/
inductive Number where
  | int (i : Int)
  | real (x : Binary64)
deriving DecidableEq, Repr, Inhabited

/-- The digits of an integer, a minus in front of a negative one. -/
def renderInt (i : Int) : List Char :=
  if i < 0 then '-' :: digitsOf i.natAbs else digitsOf i.natAbs

/-- How a number is written. -/
def Number.render : Number → List Char
  | int i => renderInt i
  | real x => x.render

/-- A number literal as it stands in the text; the digits are the most significant first. -/
structure Numeral where
  negative : Bool
  whole : List Nat
  fraction : Option (List Nat)
  exponent : Option Int
deriving DecidableEq, Repr

namespace Numeral

/-- Takes digits into a significand as long as it stays below 2^64, and returns the digits that no longer fit. -/
def absorb : Nat → List Nat → Nat × List Nat
  | n, [] => (n, [])
  | n, d :: ds => if n * 10 + d < UInt64.size then absorb (n * 10 + d) ds else (n, d :: ds)

/-- The double with these digits and this exponent of ten, if it is in range. -/
def real? (negative : Bool) (significand : Nat) (exponent : Int) : Option Number :=
  (Magnitude.ofDecimal significand exponent).map fun m => .real ⟨negative, m⟩

/-- The value of an integer literal whose digits fit a significand. -/
def ofInteger (negative : Bool) (n : Nat) : Option Number :=
  if !negative then some (.int n)
  else if n ≠ 0 ∧ n ≤ UInt64.size / 2 then some (.int (-n))
  else real? true n 0

/-- The value of a literal. Integer digits that no longer fit the significand count as powers of ten, fraction digits
that no longer fit are dropped. -/
def value? (x : Numeral) : Option Number :=
  let (n, unfit) := absorb 0 x.whole
  match x.fraction, x.exponent with
  | none, none => if unfit = [] then ofInteger x.negative n else real? x.negative n unfit.length
  | fraction, exponent =>
    let places := fraction.getD []
    let (m, dropped) := absorb n places
    let taken := places.length - dropped.length
    real? x.negative m ((unfit.length : Int) - (taken : Int) + exponent.getD 0)

end Numeral

/-- The value of a digit. -/
def digit? : Segment → Option Nat
  | .char c => if c.isDigit then some (c.toNat - '0'.toNat) else none
  | .broken _ => none

/-- Whether a piece is a decimal digit. -/
def isDigit (p : Segment) : Bool :=
  (digit? p).isSome

/-- The digits at the front of a text. -/
def leadingDigits (s : Source) : List Nat :=
  (s.takeWhile isDigit).filterMap digit?

/-- What follows the digits at the front of a text. -/
def pastDigits (s : Source) : Source :=
  s.dropWhile isDigit

/-- One or more digits. -/
def digits (s : Source) : Except Flaw (List Nat × Source) :=
  match s with
  | [] => .error .truncated
  | p :: _ => if isDigit p then .ok (leadingDigits s, pastDigits s) else .error .malformed

/-- The whole part of a literal: digits that start with a zero only if they are that zero. -/
def wholeDigits (s : Source) : Except Flaw (List Nat × Source) := do
  let (ds, rest) ← digits s
  match ds with
  | 0 :: _ :: _ => .error .malformed
  | _ => .ok (ds, rest)

/-- The fraction of a literal, if a point follows. -/
def fractionDigits (s : Source) : Except Flaw (Option (List Nat) × Source) :=
  match s with
  | .char '.' :: rest => do
    let (ds, after) ← digits rest
    .ok (some ds, after)
  | s => .ok (none, s)

/-- The number that a list of digits stands for. -/
def natOfDigits (ds : List Nat) : Nat :=
  ds.foldl (fun n d => n * 10 + d) 0

/-- The exponent of a literal, if one follows: an optional sign and digits. -/
def exponentDigits (s : Source) : Except Flaw (Option Int × Source) :=
  let exponent (sign : Int) (s : Source) : Except Flaw (Option Int × Source) := do
    let (ds, after) ← digits s
    .ok (some (sign * natOfDigits ds), after)
  let signed : Source → Except Flaw (Option Int × Source)
    | .char '+' :: rest => exponent 1 rest
    | .char '-' :: rest => exponent (-1) rest
    | rest => exponent 1 rest
  match s with
  | .char 'e' :: rest => signed rest
  | .char 'E' :: rest => signed rest
  | s => .ok (none, s)

/-- The literal at the front of a text, behind its sign. -/
def numeral (negative : Bool) (s : Source) : Except Flaw (Numeral × Source) := do
  let (whole, s) ← wholeDigits s
  let (fraction, s) ← fractionDigits s
  let (exponent, s) ← exponentDigits s
  .ok (⟨negative, whole, fraction, exponent⟩, s)

/-- The number at the front of a text, behind its sign. -/
def number (negative : Bool) (s : Source) : Except Flaw (Number × Source) := do
  let (x, s) ← numeral negative s
  match x.value? with
  | some n => .ok (n, s)
  | none => .error .malformed

end QueryGateway.Json
