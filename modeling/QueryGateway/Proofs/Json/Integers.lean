import QueryGateway.Proofs.Json.Numbers
import QueryGateway.Proofs.Json.Rearranging

/-!
# Integers that are written as they were read

A numeral denotes a rational number (`Numeral.toRat`), and so does what is written for a number (`Number.written`). An integer
literal that words of 64 bits can say is written as a literal of the same integer (`Numeral.written_eq_toRat`), also minus
zero, which is read as a double. Any other is read as a double (`Numeral.exists_real_of_large`) and written as that.
-/

namespace QueryGateway.Json

/-! ## What a numeral denotes -/

/-- The factor of a sign. -/
def signOf (negative : Bool) : ℚ := if negative then -1 else 1

namespace Numeral

/-- The number that a numeral denotes. -/
def toRat (x : Numeral) : ℚ :=
  signOf x.negative * (natOfDigits (x.whole ++ x.fraction.getD []) *
    10 ^ (x.exponent.getD 0 - (x.fraction.getD []).length))

/-- An integer literal: no fraction and no exponent. -/
structure IsInteger (x : Numeral) : Prop where
  fraction : x.fraction = none
  exponent : x.exponent = none

/-- It denotes the integer that its digits stand for, with its sign. -/
theorem IsInteger.toRat_eq {x : Numeral} (h : x.IsInteger) : x.toRat = signOf x.negative * natOfDigits x.whole := by
  simp [toRat, h.fraction, h.exponent]

end Numeral

/-- The numeral of a literal denotes what the literal does, with its sign. -/
theorem Literal.toRat_numeral (l : Literal) (negative : Bool) :
    (l.numeral negative).toRat = signOf negative * l.toRat := by
  have hdigits : natOfDigits (l.whole.map digitValue ++ (l.fraction.map (·.map digitValue)).getD []) =
      natOf (l.whole ++ l.fraction.getD []) := by
    rw [← natOfDigits_map, List.map_append]
    cases l.fraction <;> rfl
  have hlength : ((l.fraction.map (·.map digitValue)).getD []).length = (l.fraction.getD []).length := by
    cases l.fraction <;> simp
  simp only [Numeral.toRat, numeral, hdigits, hlength, toRat]

/-! ## What is written for a number -/

namespace Number

/-- What is written for a number denotes this: an integer itself, and for a double the decimal that the writer finds. -/
def written : Number → ℚ
  | int i => i
  | real x => signOf x.negative * if x.magnitude.m = 0 then 0 else x.magnitude.shortest.toRat

/-- The numeral that is written for a number denotes what is written for it. -/
theorem toRat_literal (n : Number) : (n.literal.numeral n.negative).toRat = n.written := by
  rw [Literal.toRat_numeral]
  cases n with
  | int i =>
    have hvalue : (literal (int i)).toRat = i.natAbs := by
      simp [literal, Literal.toRat, natOf_digitsOf]
    rw [hvalue, negative, written, signOf]
    by_cases hi : i < 0
    · have habs : ((i.natAbs : Int) : ℚ) = ((-i : Int) : ℚ) := by rw [Int.ofNat_natAbs_of_nonpos hi.le]
      rw [if_pos (decide_eq_true hi), ← Int.cast_natCast, habs]
      push_cast
      ring
    · have habs : ((i.natAbs : Int) : ℚ) = (i : ℚ) := by rw [Int.natAbs_of_nonneg (not_lt.1 hi)]
      rw [if_neg (by simp [hi]), ← Int.cast_natCast, habs, one_mul]
  | real x =>
    rw [negative, written, literal]
    by_cases hm : x.magnitude.m = 0
    · rw [if_pos hm, if_pos hm]
      simp [Literal.toRat, Nat.ofDigitChars_cons, Nat.ofDigitChars_nil]
    · rw [if_neg hm, if_neg hm, Magnitude.Decimal.toRat_literal]

end Number

/-! ## Integers in the range of words -/

namespace Numeral

/-- When a significand takes in all digits, the number they stand for fits. -/
theorem foldl_lt_of_absorb {ds : List Nat} {n : Nat} (hn : n < UInt64.size) (h : (absorb n ds).2 = []) :
    ds.foldl (fun n d => n * 10 + d) n < UInt64.size := by
  induction ds generalizing n with
  | nil => exact hn
  | cons d ds ih =>
    rw [absorb] at h
    split at h
    case isTrue hfits => exact ih hfits h
    case isFalse => cases h

/-- The value of an integer literal: an integer if its digits fit a word, a double otherwise. -/
theorem IsInteger.value?_eq {x : Numeral} (h : x.IsInteger) :
    x.value? =
      if natOfDigits x.whole < UInt64.size then ofInteger x.negative (natOfDigits x.whole)
      else real? x.negative (absorb 0 x.whole).1 (absorb 0 x.whole).2.length := by
  have hvalue : x.value? =
      if (absorb 0 x.whole).2 = [] then ofInteger x.negative (absorb 0 x.whole).1
      else real? x.negative (absorb 0 x.whole).1 (absorb 0 x.whole).2.length := by
    rw [value?, h.fraction, h.exponent]
  rw [hvalue]
  by_cases hfits : natOfDigits x.whole < UInt64.size
  · rw [absorb_of_lt hfits, if_pos rfl, if_pos hfits]
    rfl
  · rw [if_neg hfits, if_neg fun hall => hfits (foldl_lt_of_absorb (by decide) hall)]

/-- What is read as a double. -/
theorem exists_real_of_real? {negative : Bool} {m : Nat} {k : Int} {n : Number} (h : real? negative m k = some n) :
    ∃ magnitude, Magnitude.ofDecimal m k = some magnitude ∧ n = .real ⟨negative, magnitude⟩ := by
  obtain ⟨magnitude, hmagnitude, rfl⟩ := Option.map_eq_some_iff.1 h
  exact ⟨magnitude, hmagnitude, rfl⟩

/-- What an integer literal in the range of signed or unsigned words of 64 bits is read as is written as the same integer,
also minus zero, which is read as a double. -/
theorem written_eq_toRat {x : Numeral} (hx : x.IsInteger) (hlow : -(2 ^ 63) ≤ x.toRat) (hhigh : x.toRat < 2 ^ 64)
    {n : Number} (h : x.value? = some n) : n.written = x.toRat := by
  have hsize : UInt64.size = 2 ^ 64 := by decide
  rw [hx.toRat_eq] at hlow hhigh ⊢
  rw [hx.value?_eq] at h
  generalize natOfDigits x.whole = k at *
  cases hsign : x.negative with
  | false =>
    rw [hsign] at h hhigh
    have hk : k < UInt64.size := by
      rw [hsize]
      simp only [signOf, Bool.false_eq_true, if_false, one_mul] at hhigh
      exact_mod_cast hhigh
    rw [if_pos hk] at h
    obtain rfl : Number.int k = n := Option.some.inj h
    simp [Number.written, signOf]
  | true =>
    rw [hsign] at h hlow
    have hk : k ≤ 2 ^ 63 := by
      simp only [signOf, if_true, neg_one_mul, neg_le_neg_iff] at hlow
      exact_mod_cast hlow
    rw [if_pos (by omega)] at h
    by_cases hzero : k = 0
    · subst hzero
      have hreal : real? true 0 0 = some n := h
      obtain ⟨magnitude, hmagnitude, rfl⟩ := exists_real_of_real? hreal
      have hm : magnitude.m = 0 := by
        have hread : Magnitude.ofDecimal 0 0 = some Magnitude.zero := by decide +kernel
        rw [← Option.some.inj (hread.symm.trans hmagnitude)]
        rfl
      simp [Number.written, hm]
    · have hnegative : ofInteger true k = some (.int (-k)) := by
        rw [ofInteger, if_neg (by decide), if_pos ⟨hzero, by omega⟩]
      rw [hnegative] at h
      obtain rfl : Number.int (-k) = n := Option.some.inj h
      simp [Number.written, signOf]

/-- One outside of it is read as a double. -/
theorem exists_real_of_large {x : Numeral} (hx : x.IsInteger) (hrange : x.toRat < -(2 ^ 63) ∨ 2 ^ 64 ≤ x.toRat)
    {n : Number} (h : x.value? = some n) : ∃ d, n = .real d := by
  have hsize : UInt64.size = 2 ^ 64 := by decide
  rw [hx.toRat_eq] at hrange
  rw [hx.value?_eq] at h
  split at h
  case isFalse =>
    obtain ⟨magnitude, -, rfl⟩ := exists_real_of_real? h
    exact ⟨_, rfl⟩
  case isTrue hfits =>
    generalize natOfDigits x.whole = k at *
    cases hsign : x.negative with
    | false =>
      rw [hsign] at hrange
      simp only [signOf, Bool.false_eq_true, if_false, one_mul] at hrange
      have hnonneg : (0 : ℚ) ≤ k := Nat.cast_nonneg k
      have hlt : (k : ℚ) < 2 ^ 64 := by
        rw [hsize] at hfits
        exact_mod_cast hfits
      rcases hrange with hlow | hhigh <;> linarith
    | true =>
      rw [hsign] at hrange h
      by_cases hsmall : k ≠ 0 ∧ k ≤ UInt64.size / 2
      · simp only [signOf, if_true, neg_one_mul] at hrange
        have hle : (k : ℚ) ≤ 2 ^ 63 := by
          have hnat : k ≤ 2 ^ 63 := by omega
          exact_mod_cast hnat
        have hnonneg : (0 : ℚ) ≤ k := Nat.cast_nonneg k
        rcases hrange with hlow | hhigh <;> linarith
      · rw [ofInteger, if_neg (by decide), if_neg hsmall] at h
        obtain ⟨magnitude, -, rfl⟩ := exists_real_of_real? h
        exact ⟨_, rfl⟩

end Numeral
end QueryGateway.Json
