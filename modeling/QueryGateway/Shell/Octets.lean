import QueryGateway.Text.Utf8

/-!
# Octets

Scripts, arguments and output of engines are byte strings. They are handled as lists of characters below U+0100, one
for each byte, so that rules about them can be written with character literals.
-/

namespace QueryGateway.Shell

/-- A byte string, each byte as the character with its value. -/
abbrev Octets := List Char

namespace Octets

/-- The octets of a byte string. -/
def ofBytes (bs : Bytes) : Octets :=
  bs.map fun b => Char.ofNat b.toNat

/-- The byte string of octets. -/
def toBytes (o : Octets) : Bytes :=
  o.map fun c => UInt8.ofNat c.toNat

/-- The octets of a text. -/
def ofString (s : String) : Octets :=
  ofBytes (Text.encode s)

/-- The octets of a natural number in decimal. -/
def ofNat (n : Nat) : Octets :=
  Nat.toDigits 10 n

/-- The octets of an integer in decimal. -/
def ofInt (i : Int) : Octets :=
  if i < 0 then '-' :: ofNat i.natAbs else ofNat i.natAbs

/-- The pieces between the occurrences of a character. -/
def splitOn (c : Char) : Octets → List Octets
  | [] => [[]]
  | d :: rest =>
    match splitOn c rest with
    | [] => [[d]]
    | part :: parts => if d = c then [] :: part :: parts else (d :: part) :: parts

/-- The lines of a text, each with its newline if it has one. -/
def linesFrom : Octets → Octets → List Octets → List Octets
  | [], [], done => done.reverse
  | [], line, done => (line.reverse :: done).reverse
  | c :: rest, line, done =>
    if c = '\n' then linesFrom rest [] ((c :: line).reverse :: done) else linesFrom rest (c :: line) done

/-- The lines of a text, each with its newline if it has one. -/
def lines (o : Octets) : List Octets :=
  linesFrom o [] []

/-- The value of a digit in a base up to sixteen. -/
def digitValue? (base : Nat) (c : Char) : Option Nat :=
  let value :=
    if c.isDigit then some (c.toNat - '0'.toNat)
    else if 'a' ≤ c ∧ c ≤ 'f' then some (c.toNat - 'a'.toNat + 10)
    else if 'A' ≤ c ∧ c ≤ 'F' then some (c.toNat - 'A'.toNat + 10)
    else none
  value.filter (· < base)

/-- Reads digits of a base from the front; the value, and what follows. -/
def readBase (base : Nat) : Nat → Octets → Nat × Octets
  | n, [] => (n, [])
  | n, c :: rest =>
    match digitValue? base c with
    | some d => readBase base (n * base + d) rest
    | none => (n, c :: rest)

/-- A decimal number that fills its text. -/
def nat? (o : Octets) : Option Nat :=
  if o ≠ [] ∧ o.all Char.isDigit then some (readBase 10 0 o).1 else none

/-- A decimal number with an optional sign that fills its text. -/
def int? (o : Octets) : Option Int :=
  match o with
  | '-' :: rest => (nat? rest).map fun n => -(n : Int)
  | '+' :: rest => (nat? rest).map fun n => (n : Int)
  | rest => (nat? rest).map fun n => (n : Int)

/-- The order of octets. -/
def le : Octets → Octets → Bool
  | [], _ => true
  | _ :: _, [] => false
  | a :: as, b :: bs => if a < b then true else if b < a then false else le as bs

end Octets

/-- Whether a character may start a name. -/
def isNameStart (c : Char) : Bool := c.isAlpha || c = '_'

/-- Whether a character may stand in a name. -/
def isNameChar (c : Char) : Bool := c.isAlphanum || c = '_'

/-- Whether a word is a name. -/
def isName (o : Octets) : Bool :=
  match o with
  | [] => false
  | c :: rest => isNameStart c && rest.all isNameChar

end QueryGateway.Shell
