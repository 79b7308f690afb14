/-!
# Double-precision numbers

A number of the form ± m · 2^e with a significand of at most 53 bits, read from decimal digits and written with the
fewest decimal digits that read back. All arithmetic is on natural numbers, each operation rounding once to the
nearest representable value, an exact half to the even one.
-/

namespace QueryGateway.Json

/-- The magnitude m · 2^e of a finite number. Normal form: `m < 2^53`, `-1074 ≤ e ≤ 971`, and `2^52 ≤ m` unless
`e = -1074`. -/
structure Magnitude where
  m : Nat
  e : Int
deriving DecidableEq, Repr, Inhabited

/-- A signed finite number; zero has both signs. -/
structure Binary64 where
  negative : Bool
  magnitude : Magnitude
deriving DecidableEq, Repr, Inhabited

/-- The quotient rounded to the nearest integer, an exact half to the even one. -/
def roundDiv (num den : Nat) : Nat :=
  let q := num / den
  let r := num % den
  if 2 * r < den then q else if den < 2 * r then q + 1 else if q % 2 = 0 then q else q + 1

/-- The numerator and denominator of `num / den · 2^k`. -/
def scaleTwo (num den : Nat) (k : Int) : Nat × Nat :=
  if 0 ≤ k then (num * Nat.pow 2 k.toNat, den) else (num, den * Nat.pow 2 (-k).toNat)

namespace Magnitude

/-- Zero. -/
def zero : Magnitude := ⟨0, -1074⟩

/-- The largest `k` with `2^k ≤ num / den`, both positive. -/
def floorLog2 (num den : Nat) : Int :=
  let k : Int := (num.log2 : Int) - (den.log2 : Int)
  let (n, d) := scaleTwo num den (-k)
  if d ≤ n then k else k - 1

/-- The representable value nearest to `num / den`; `none` when that is past the largest one. -/
def ofRatio (num den : Nat) : Option Magnitude :=
  if num = 0 ∨ den = 0 then some zero
  else
    let e := max (-1074) (floorLog2 num den - 52)
    let (n, d) := scaleTwo num den (-e)
    let m := roundDiv n d
    let rounded : Magnitude := if m = Nat.pow 2 53 then ⟨Nat.pow 2 52, e + 1⟩ else ⟨m, e⟩
    if rounded.e ≤ 971 then some rounded else none

/-- The representable value nearest to a natural number below 2^64. -/
def ofNat (n : Nat) : Magnitude :=
  (ofRatio n 1).getD zero

/-- The representable value nearest to a power of ten that is in range. -/
def powTen (k : Nat) : Magnitude :=
  ofNat (Nat.pow 10 k)

/-- The product, rounded once. -/
def mul (x y : Magnitude) : Option Magnitude :=
  let (n, d) := scaleTwo (x.m * y.m) 1 (x.e + y.e)
  ofRatio n d

/-- The quotient, rounded once. -/
def div (x y : Magnitude) : Magnitude :=
  let (n, d) := scaleTwo x.m y.m (x.e - y.e)
  (ofRatio n d).getD zero

/-- `x` divided by 10^k, in steps of at most 10^308. -/
def downTen (x : Magnitude) (k : Nat) : Magnitude :=
  if k ≤ 308 then x.div (powTen k)
  else if x.m = 0 then x
  else downTen (x.div (powTen 308)) (k - 308)
termination_by k
decreasing_by omega

/-- The number `significand · 10^k`: the significand is rounded first and scaled by a rounded power of ten, which may
differ from the nearest value in the last place. `none` when the result is out of range. -/
def ofDecimal (significand : Nat) (k : Int) : Option Magnitude :=
  let x := ofNat significand
  if k < 0 then some (x.downTen (-k).toNat)
  else if k ≤ 308 then x.mul (powTen k.toNat)
  else if x.m = 0 then some x
  else none

/-! ## The fewest digits that read back -/

/-- A decimal `digits · 10^exponent`. -/
structure Decimal where
  digits : Nat
  exponent : Int
deriving DecidableEq, Repr

/-- The numerator and denominator of `num / den · 10^k`. -/
def scaleTen (num den : Nat) (k : Int) : Nat × Nat :=
  if 0 ≤ k then (num * Nat.pow 10 k.toNat, den) else (num, den * Nat.pow 10 (-k).toNat)

/-- The largest `k` with `10^k ≤ num / den`, found from an estimate that is at most one off on either side. -/
def floorLog10 (num den : Nat) : Int :=
  let estimate : Int := floorLog2 num den * 30103 / 100000
  let atLeast (k : Int) : Bool :=
    let (n, d) := scaleTen num den (-k)
    d ≤ n
  if atLeast (estimate + 1) then estimate + 1 else if atLeast estimate then estimate else estimate - 1

/-- The reals that round to a value, in quarters of its last place: from `low` to `high` around `4 * m`, the ends
included when `m` is even. Below a power of two the lower half-gap is half as wide. -/
structure Basin where
  low : Nat
  high : Nat
  closed : Bool

/-- The basin of a positive value. -/
def basin (x : Magnitude) : Basin :=
  { low := if x.m = Nat.pow 2 52 ∧ -1074 < x.e then 4 * x.m - 1 else 4 * x.m - 2,
    high := 4 * x.m + 2,
    closed := x.m % 2 = 0 }

/-- Whether `num / den`, in quarters of the last place, lies in the basin. -/
def Basin.holds (b : Basin) (num den : Nat) : Bool :=
  if b.closed then b.low * den ≤ num && num ≤ b.high * den else b.low * den < num && num < b.high * den

/-- The best decimal on the grid of step 10^g that reads back, if one does: of the two neighbours of the value the
nearer, an exact tie going to the even one. -/
def onGrid? (x : Magnitude) (g : Int) : Option Decimal :=
  let b := x.basin
  -- the value in quarters of its last place is 4m; the quarter is 2^(e-2), so a grid step is 10^g / 2^(e-2) quarters
  let (n2, d2) := scaleTwo 1 1 (2 - x.e)
  let (n, d) := scaleTen n2 d2 g
  let below := 4 * x.m * d / n
  let holds (c : Nat) : Bool := 0 < c && b.holds (c * n) d
  let gapBelow := 4 * x.m * d - below * n
  let gapAbove := (below + 1) * n - 4 * x.m * d
  match holds below, holds (below + 1) with
  | true, true =>
    if gapBelow < gapAbove then some ⟨below, g⟩
    else if gapAbove < gapBelow then some ⟨below + 1, g⟩
    else if below % 2 = 0 then some ⟨below, g⟩ else some ⟨below + 1, g⟩
  | true, false => some ⟨below, g⟩
  | false, true => some ⟨below + 1, g⟩
  | false, false => none

/-- The shortest decimal that reads back, tried with 17, 16, … 1 digits to go. -/
def shortestFrom (x : Magnitude) (top : Int) : Nat → Nat → Decimal
  | 0, _ => ⟨x.m, 0⟩
  | left + 1, count =>
    match x.onGrid? (top - count + 1) with
    | some d => d
    | none => shortestFrom x top left (count + 1)

/-- The shortest decimal that reads back as a positive value. -/
def shortest (x : Magnitude) : Decimal :=
  let (n, d) := scaleTwo x.m 1 x.e
  shortestFrom x (floorLog10 n d) 17 1

end Magnitude

/-! ## How a number is written -/

/-- How decimals are laid out: the range of exponents of the first digit that is written positionally. -/
structure Layout where
  lowest : Int
  highest : Int

/-- Numbers are positional from 10^-5 up to, not including, 10^16. -/
def layout : Layout := ⟨-5, 15⟩

/-- A run of zeros. -/
def zeros (n : Nat) : List Char := List.replicate n '0'

/-- The decimal digits of a natural number. -/
def digitsOf (n : Nat) : List Char := Nat.toDigits 10 n

/-- The digits without the zeros at their end. -/
def dropZeros (ds : List Char) : List Char := (ds.reverse.dropWhile (· = '0')).reverse

/-- The text of a positive decimal. Positionally there is at least one digit on each side of the point; otherwise one
digit stands before the point, the point is left out when nothing follows it, and the exponent has its sign. -/
def Magnitude.Decimal.render (l : Layout) (d : Magnitude.Decimal) : List Char :=
  let all := digitsOf d.digits
  let first : Int := d.exponent + (all.length : Int) - 1
  let ds := dropZeros all
  if l.lowest ≤ first ∧ first ≤ l.highest then
    if 0 ≤ first then
      let whole := first.toNat + 1
      let ds := ds ++ zeros (whole - ds.length)
      let tail := ds.drop whole
      ds.take whole ++ '.' :: (if tail.isEmpty then ['0'] else tail)
    else '0' :: '.' :: (zeros ((-first).toNat - 1) ++ ds)
  else
    let mark := 'e' :: (if 0 ≤ first then '+' else '-') :: digitsOf first.natAbs
    match ds with
    | [] => '0' :: mark
    | [c] => c :: mark
    | c :: rest => c :: '.' :: (rest ++ mark)

/-- The text of a number. -/
def Binary64.render (x : Binary64) : List Char :=
  let body := if x.magnitude.m = 0 then ['0', '.', '0'] else x.magnitude.shortest.render layout
  if x.negative then '-' :: body else body

end QueryGateway.Json
