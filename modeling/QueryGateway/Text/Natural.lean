import QueryGateway.Text.Blank

/-!
# Natural numbers as settings

An optional plus and decimal digits, read from the left up to the first character that cannot stand or that takes the
value past its bound. That first character decides the flaw.
-/

namespace QueryGateway.Text

/-- Why a text is no natural number below the bound. -/
inductive NaturalFlaw where
  | empty
  | badDigit
  | tooLarge
deriving DecidableEq, Repr

/-- The wording of a flaw. -/
def NaturalFlaw.message : NaturalFlaw → String
  | empty => "cannot parse integer from empty string"
  | badDigit => "invalid digit found in string"
  | tooLarge => "number too large to fit in target type"

/-- The digits left to read, after a value of `n`; the result is below `bound`. -/
def readDigits (bound : Nat) : Nat → List Char → Except NaturalFlaw Nat
  | n, [] => .ok n
  | n, c :: cs =>
    if c.isDigit then
      let next := n * 10 + (c.toNat - '0'.toNat)
      if next < bound then readDigits bound next cs else .error .tooLarge
    else .error .badDigit

/-- A natural number below `bound`, with an optional plus in front. -/
def readNatural (bound : Nat) (s : String) : Except NaturalFlaw Nat :=
  match s.toList with
  | [] => .error .empty
  | ['+'] => .error .badDigit
  | '+' :: cs => readDigits bound 0 cs
  | cs => readDigits bound 0 cs

end QueryGateway.Text
