import Mathlib.Algebra.Order.Field.Power
import Mathlib.Algebra.Order.Field.Rat
import Mathlib.Tactic.GCongr
import Mathlib.Tactic.Linarith
import Mathlib.Tactic.NormNum
import Mathlib.Tactic.Positivity
import Mathlib.Tactic.Ring
import QueryGateway.Json.Binary64

/-!
# How far rounding goes

A ratio is rounded up by at most half of its last place (`roundDiv_le`), so a double is hardly greater than what it was
made from (`toRat_ofRatio_le`), and only a ratio that is half of a last place past the largest double or more cannot be
rounded (`ceiling_le_of_ofRatio`). A decimal up to `margin` is a double, although its significand, its power of ten and
their product are rounded one after the other (`ofDecimal_isSome`).
-/

namespace QueryGateway.Json

/-! ## Scaling -/

/-- A scaled fraction is the fraction times a power, and stays one. -/
theorem scaled_ratio {b : Nat} (hb : 0 < b) (num : Nat) {den : Nat} (hden : 0 < den) (k : Int) {n d : Nat}
    (h : (if 0 ≤ k then (num * b ^ k.toNat, den) else (num, den * b ^ (-k).toNat)) = (n, d)) :
    0 < d ∧ (n : ℚ) / d = num / den * (b : ℚ) ^ k := by
  have hb' : (b : ℚ) ≠ 0 := by exact_mod_cast hb.ne'
  split at h
  case isTrue hk =>
    cases h
    obtain ⟨k, rfl⟩ := Int.eq_ofNat_of_zero_le hk
    refine ⟨hden, ?_⟩
    rw [Int.toNat_natCast, zpow_natCast]
    push_cast
    ring
  case isFalse hk =>
    cases h
    obtain ⟨j, rfl⟩ : ∃ j : Nat, k = -j := ⟨(-k).toNat, by omega⟩
    refine ⟨Nat.mul_pos hden (Nat.pow_pos hb), ?_⟩
    rw [neg_neg, Int.toNat_natCast, zpow_neg, zpow_natCast]
    push_cast
    rw [div_mul_eq_div_div]
    rfl

theorem scaleTwo_ratio (num : Nat) {den : Nat} (hden : 0 < den) (k : Int) {n d : Nat} (h : scaleTwo num den k = (n, d)) :
    0 < d ∧ (n : ℚ) / d = num / den * 2 ^ k := by
  exact_mod_cast scaled_ratio (b := 2) (by decide) num hden k h

theorem scaleTen_ratio (num : Nat) {den : Nat} (hden : 0 < den) (k : Int) {n d : Nat}
    (h : Magnitude.scaleTen num den k = (n, d)) : 0 < d ∧ (n : ℚ) / d = num / den * 10 ^ k := by
  exact_mod_cast scaled_ratio (b := 10) (by decide) num hden k h

/-- Rounding adds at most one half. -/
theorem roundDiv_le (num : Nat) {den : Nat} (hden : 0 < den) : (roundDiv num den : ℚ) ≤ num / den + 1 / 2 := by
  have hnat : 2 * (den * roundDiv num den) ≤ 2 * num + den := by
    have hdiv : den * (num / den) + num % den = num := Nat.div_add_mod num den
    have hup : den * (num / den + 1) = den * (num / den) + den := Nat.mul_succ _ _
    simp only [roundDiv]
    split
    · omega
    split
    · omega
    split <;> omega
  have hden' : (0 : ℚ) < den := by exact_mod_cast hden
  have hrat : (2 : ℚ) * (den * roundDiv num den) ≤ 2 * num + den := by exact_mod_cast hnat
  rw [div_add_div _ _ hden'.ne' two_ne_zero, le_div_iff₀ (by positivity)]
  linarith

namespace Magnitude

/-- The value of a magnitude. -/
def toRat (x : Magnitude) : ℚ := x.m * 2 ^ x.e

/-- A magnitude that a double can have. -/
structure Bounded (x : Magnitude) : Prop where
  m_lt : x.m < 2 ^ 53
  e_le : x.e ≤ 971

theorem bounded_zero : zero.Bounded := ⟨by decide, by decide⟩

/-- The logarithm is that of a power of two that is not greater, and whose double is. -/
theorem floorLog2_bounds {num den : Nat} (hnum : 0 < num) (hden : 0 < den) :
    (2 : ℚ) ^ floorLog2 num den ≤ num / den ∧ (num : ℚ) / den < 2 ^ (floorLog2 num den + 1) := by
  have hden' : (0 : ℚ) < den := by exact_mod_cast hden
  have hnumLow : (2 : ℚ) ^ (num.log2 : Int) ≤ num := by exact_mod_cast Nat.log2_self_le hnum.ne'
  have hnumHigh : (num : ℚ) < 2 ^ ((num.log2 : Int) + 1) := by exact_mod_cast Nat.lt_log2_self (n := num)
  have hdenLow : (2 : ℚ) ^ (den.log2 : Int) ≤ den := by exact_mod_cast Nat.log2_self_le hden.ne'
  have hdenHigh : (den : ℚ) < 2 ^ ((den.log2 : Int) + 1) := by exact_mod_cast Nat.lt_log2_self (n := den)
  set k : Int := (num.log2 : Int) - (den.log2 : Int) with hk
  have hlow : (2 : ℚ) ^ (k - 1) ≤ num / den := by
    rw [le_div_iff₀ hden']
    calc (2 : ℚ) ^ (k - 1) * den ≤ 2 ^ (k - 1) * 2 ^ ((den.log2 : Int) + 1) := by gcongr
      _ = 2 ^ (num.log2 : Int) := by rw [← zpow_add₀ two_ne_zero, hk]; congr 1; ring
      _ ≤ num := hnumLow
  have hhigh : (num : ℚ) / den < 2 ^ (k + 1) := by
    rw [div_lt_iff₀ hden']
    calc (num : ℚ) < 2 ^ ((num.log2 : Int) + 1) := hnumHigh
      _ = 2 ^ (k + 1) * 2 ^ (den.log2 : Int) := by rw [← zpow_add₀ two_ne_zero, hk]; congr 1; ring
      _ ≤ 2 ^ (k + 1) * den := by gcongr
  rcases hscale : scaleTwo num den (-k) with ⟨n, d⟩
  obtain ⟨hd, hratio⟩ := scaleTwo_ratio num hden (-k) hscale
  have hd' : (0 : ℚ) < d := by exact_mod_cast hd
  have hiff : d ≤ n ↔ (2 : ℚ) ^ k ≤ num / den := by
    rw [← Nat.cast_le (α := ℚ), ← one_le_div hd', hratio, zpow_neg, ← div_eq_mul_inv, one_le_div (by positivity)]
  have hlog : floorLog2 num den = if d ≤ n then k else k - 1 := by
    simp only [floorLog2, ← hk, hscale]
  rw [hlog]
  split
  case isTrue h => exact ⟨hiff.mp h, hhigh⟩
  case isFalse h =>
    rw [hiff, not_le] at h
    exact ⟨hlow, by rwa [sub_add_cancel]⟩

/-! ## Ratios -/

/-- A ratio is rounded to a number of last places that is at most one half too many. It is a double then, unless its
exponent would be too large. -/
theorem ofRatio_cases {num den : Nat} (hnum : 0 < num) (hden : 0 < den) :
    ∃ (m : Nat) (e : Int), e = max (-1074) (floorLog2 num den - 52) ∧ (m : ℚ) * 2 ^ e ≤ num / den + 2 ^ e / 2 ∧
      ((∃ x, ofRatio num den = some x ∧ x.Bounded ∧ x.toRat = m * 2 ^ e) ∨
        ofRatio num den = none ∧ (m = 2 ^ 53 ∧ 971 ≤ e ∨ 972 ≤ e)) := by
  set e : Int := max (-1074) (floorLog2 num den - 52) with he
  have hpos : (0 : ℚ) < 2 ^ e := by positivity
  rcases hscale : scaleTwo num den (-e) with ⟨n, d⟩
  obtain ⟨hd, hratio⟩ := scaleTwo_ratio num hden (-e) hscale
  have hround : (roundDiv n d : ℚ) * 2 ^ e ≤ num / den + 2 ^ e / 2 := by
    calc (roundDiv n d : ℚ) * 2 ^ e ≤ (num / den * 2 ^ (-e) + 1 / 2) * 2 ^ e := by
          rw [← hratio]
          gcongr
          exact roundDiv_le n hd
      _ = num / den + 2 ^ e / 2 := by
        rw [add_mul, mul_assoc, ← zpow_add₀ two_ne_zero, neg_add_cancel, zpow_zero]
        ring
  have hm : roundDiv n d ≤ 2 ^ 53 := by
    have hbelow : (num : ℚ) / den < 2 ^ (53 : Int) * 2 ^ e := by
      calc (num : ℚ) / den < 2 ^ (floorLog2 num den + 1) := (floorLog2_bounds hnum hden).2
        _ ≤ 2 ^ (53 + e) := zpow_le_zpow_right₀ one_le_two (by omega)
        _ = 2 ^ (53 : Int) * 2 ^ e := zpow_add₀ two_ne_zero _ _
    have hscaled : (roundDiv n d : ℚ) * 2 ^ e < (2 ^ 53 + 1) * 2 ^ e := by
      calc (roundDiv n d : ℚ) * 2 ^ e ≤ num / den + 2 ^ e / 2 := hround
        _ < 2 ^ (53 : Int) * 2 ^ e + 2 ^ e := by linarith
        _ = (2 ^ 53 + 1) * 2 ^ e := by norm_cast; ring
    have hlt : roundDiv n d < 2 ^ 53 + 1 := by exact_mod_cast lt_of_mul_lt_mul_right hscaled hpos.le
    omega
  refine ⟨roundDiv n d, e, rfl, hround, ?_⟩
  have hguard : ¬(num = 0 ∨ den = 0) := by omega
  simp only [ofRatio, hguard, if_false, ← he, hscale, Nat.pow_eq]
  by_cases hcarry : roundDiv n d = 2 ^ 53
  · rw [if_pos hcarry]
    split
    case isTrue hle =>
      refine .inl ⟨_, rfl, ⟨by norm_num, hle⟩, ?_⟩
      rw [toRat, hcarry, zpow_add₀ two_ne_zero]
      push_cast
      ring
    case isFalse hgt => exact .inr ⟨rfl, .inl ⟨hcarry, by simp only at hgt; omega⟩⟩
  · rw [if_neg hcarry]
    split
    case isTrue hle => exact .inl ⟨_, rfl, ⟨lt_of_le_of_ne hm hcarry, hle⟩, rfl⟩
    case isFalse hgt => exact .inr ⟨rfl, .inr (by simp only at hgt; omega)⟩

/-- A rounded ratio is a double. -/
theorem bounded_ofRatio {num den : Nat} {x : Magnitude} (h : ofRatio num den = some x) : x.Bounded := by
  by_cases hguard : num = 0 ∨ den = 0
  · rw [ofRatio, if_pos hguard] at h
    cases h
    exact bounded_zero
  have hnum : 0 < num := by omega
  have hden : 0 < den := by omega
  obtain ⟨m, e, -, -, ⟨y, hy, hbounded, -⟩ | ⟨hnone, -⟩⟩ := ofRatio_cases hnum hden
  · cases hy.symm.trans h
    exact hbounded
  · cases hnone.symm.trans h

/-- The least that is too large: half of the last place above the largest double. -/
def ceiling : ℚ := (2 ^ 53 - 1 / 2) * 2 ^ (971 : Int)

/-- Only what is too large cannot be rounded. -/
theorem ceiling_le_of_ofRatio {num den : Nat} (h : ofRatio num den = none) : ceiling ≤ (num : ℚ) / den := by
  by_cases hguard : num = 0 ∨ den = 0
  · rw [ofRatio, if_pos hguard] at h
    cases h
  have hnum : 0 < num := by omega
  have hden : 0 < den := by omega
  obtain ⟨m, e, he, hround, ⟨y, hy, -⟩ | ⟨-, ⟨hcarry, hlarge⟩ | hlarge⟩⟩ := ofRatio_cases hnum hden
  · cases hy.symm.trans h
  · have hpow : (2 : ℚ) ^ (971 : Int) ≤ 2 ^ e := zpow_le_zpow_right₀ one_le_two hlarge
    rw [hcarry] at hround
    push_cast at hround
    calc ceiling ≤ (2 ^ 53 - 1 / 2) * 2 ^ e := mul_le_mul_of_nonneg_left hpow (by norm_num)
      _ ≤ num / den := by linarith
  · have hpos : (0 : ℚ) < 2 ^ (971 : Int) := by positivity
    calc ceiling ≤ 2 ^ (53 : Int) * 2 ^ (971 : Int) := mul_le_mul_of_nonneg_right (by norm_num) hpos.le
      _ = 2 ^ (53 + 971 : Int) := (zpow_add₀ two_ne_zero _ _).symm
      _ ≤ 2 ^ floorLog2 num den := zpow_le_zpow_right₀ one_le_two (by omega)
      _ ≤ num / den := (floorLog2_bounds hnum hden).1

/-- Rounding a ratio of at least one, whose last place is far above the smallest one there is, adds hardly anything to
it. -/
theorem toRat_ofRatio_le {num den : Nat} (hden : 0 < den) (hle : den ≤ num) {x : Magnitude}
    (h : ofRatio num den = some x) : x.toRat ≤ num / den * (1 + 1 / 2 ^ 53) := by
  have hnum : 0 < num := by omega
  obtain ⟨m, e, he, hround, ⟨y, hy, -, hvalue⟩ | ⟨hnone, -⟩⟩ := ofRatio_cases hnum hden
  · cases hy.symm.trans h
    obtain ⟨hlow, hhigh⟩ := floorLog2_bounds hnum hden
    have hlog : 0 ≤ floorLog2 num den := by
      by_contra hneg
      have hone : (1 : ℚ) ≤ num / den := by
        rw [one_le_div (by exact_mod_cast hden)]
        exact_mod_cast hle
      have hhalf : (2 : ℚ) ^ (floorLog2 num den + 1) ≤ 2 ^ (0 : Int) := zpow_le_zpow_right₀ one_le_two (by omega)
      rw [zpow_zero] at hhalf
      linarith
    have hplace : (2 : ℚ) ^ e ≤ num / den * (1 / 2 ^ 52) := by
      rw [show e = floorLog2 num den + -52 by omega, zpow_add₀ two_ne_zero]
      calc (2 : ℚ) ^ floorLog2 num den * 2 ^ (-52 : Int) ≤ num / den * 2 ^ (-52 : Int) := by gcongr
        _ = num / den * (1 / 2 ^ 52) := by norm_num
    rw [hvalue]
    linarith
  · cases hnone.symm.trans h

/-! ## Decimals -/

/-- A number that is not too large is rounded to a double that is hardly greater. -/
theorem toRat_ofNat_le {n : Nat} (h : (n : ℚ) < ceiling) : (ofNat n).toRat ≤ n * (1 + 1 / 2 ^ 53) := by
  rcases n.eq_zero_or_pos with rfl | hpos
  · simp [ofNat, ofRatio, zero, toRat]
  cases hround : ofRatio n 1 with
  | none =>
    have hceiling := ceiling_le_of_ofRatio hround
    rw [Nat.cast_one, div_one] at hceiling
    exact absurd hceiling (not_le.mpr h)
  | some x =>
    have hle := toRat_ofRatio_le one_pos hpos hround
    rw [Nat.cast_one, div_one] at hle
    rwa [ofNat, hround, Option.getD_some]

/-- The ceiling is a natural number. -/
theorem ceiling_eq : ceiling = ((2 ^ 54 - 1) * 2 ^ 970 : Nat) := by
  have htwice : (2 : ℚ) ^ (971 : Int) = 2 * 2 ^ (970 : Nat) := by
    rw [show (971 : Int) = 1 + (970 : Nat) by norm_num, zpow_add₀ two_ne_zero, zpow_one, zpow_natCast]
  rw [ceiling, htwice, Nat.cast_mul, Nat.cast_pow, Nat.cast_ofNat]
  generalize (2 : ℚ) ^ (970 : Nat) = y
  norm_num
  ring

/-- 10^308 is below the ceiling, 10^309 above. -/
theorem pow_lt_ceiling : (10 : ℚ) ^ 308 < ceiling := by
  have h : ((10 ^ 308 : Nat) : ℚ) < ((2 ^ 54 - 1) * 2 ^ 970 : Nat) := Nat.cast_lt.mpr (by decide +kernel)
  rwa [Nat.cast_pow, Nat.cast_ofNat, ← ceiling_eq] at h

theorem ceiling_lt_pow : ceiling < 10 ^ 309 := by
  have h : (((2 ^ 54 - 1) * 2 ^ 970 : Nat) : ℚ) < (10 ^ 309 : Nat) := Nat.cast_lt.mpr (by decide +kernel)
  rwa [Nat.cast_pow, Nat.cast_ofNat, ← ceiling_eq] at h

/-- A decimal up to this is never too large, whatever is added on the way to it. -/
def margin : ℚ := (2 ^ 53 - 5 / 2) * 2 ^ (971 : Int)

/-- What is added to a decimal up to the margin does not take it to the ceiling. -/
theorem margin_mul_lt : margin * ((1 + 1 / 2 ^ 53) * (1 + 1 / 2 ^ 53)) < ceiling := by
  have hpos : (0 : ℚ) < 2 ^ (971 : Int) := by positivity
  calc margin * ((1 + 1 / 2 ^ 53) * (1 + 1 / 2 ^ 53))
      = (2 ^ 53 - 5 / 2) * ((1 + 1 / 2 ^ 53) * (1 + 1 / 2 ^ 53)) * 2 ^ (971 : Int) := by rw [margin]; ring
    _ < ceiling := mul_lt_mul_of_pos_right (by norm_num) hpos

theorem margin_lt_ceiling : margin < ceiling := by
  have hpos : (0 : ℚ) < 2 ^ (971 : Int) := by positivity
  exact mul_lt_mul_of_pos_right (by norm_num) hpos

theorem toRat_nonneg (x : Magnitude) : 0 ≤ x.toRat := by
  unfold toRat
  positivity

/-- A product is rounded unless the values multiply to something too large. -/
theorem mul_isSome {x y : Magnitude} (h : x.toRat * y.toRat < ceiling) : (x.mul y).isSome := by
  rcases hscale : scaleTwo (x.m * y.m) 1 (x.e + y.e) with ⟨n, d⟩
  obtain ⟨-, hratio⟩ := scaleTwo_ratio (x.m * y.m) one_pos (x.e + y.e) hscale
  have hproduct : (n : ℚ) / d = x.toRat * y.toRat := by
    rw [hratio, zpow_add₀ two_ne_zero, toRat, toRat]
    push_cast
    ring
  cases hround : ofRatio n d with
  | none => exact absurd (hproduct ▸ ceiling_le_of_ofRatio hround) (not_le.mpr h)
  | some z => simp [mul, hscale, hround]

/-- A decimal up to the margin is read as a double. -/
theorem ofDecimal_isSome (n : Nat) {k : Int} (h : (n : ℚ) * 10 ^ k ≤ margin) : (ofDecimal n k).isSome := by
  unfold ofDecimal
  simp only
  split
  · rfl
  obtain ⟨j, rfl⟩ : ∃ j : Nat, k = j := ⟨k.toNat, by omega⟩
  rw [zpow_natCast] at h
  have hone : (1 : ℚ) ≤ 10 ^ j := one_le_pow₀ (by norm_num)
  split
  case isTrue hj =>
    have hten : (10 : ℚ) ^ j ≤ 10 ^ 308 := pow_le_pow_right₀ (by norm_num) (by omega)
    have hn : (n : ℚ) < ceiling := by
      calc (n : ℚ) ≤ n * 10 ^ j := le_mul_of_one_le_right (by positivity) hone
        _ < ceiling := h.trans_lt margin_lt_ceiling
    have hpow : (powTen j).toRat ≤ 10 ^ j * (1 + 1 / 2 ^ 53) := by
      have hle := toRat_ofNat_le (n := 10 ^ j) (by rw [Nat.cast_pow]; exact hten.trans_lt pow_lt_ceiling)
      rwa [Nat.cast_pow] at hle
    refine mul_isSome ?_
    calc (ofNat n).toRat * (powTen j).toRat
        ≤ (n * (1 + 1 / 2 ^ 53)) * (10 ^ j * (1 + 1 / 2 ^ 53)) :=
          mul_le_mul (toRat_ofNat_le hn) hpow (toRat_nonneg _) (by positivity)
      _ = n * 10 ^ j * ((1 + 1 / 2 ^ 53) * (1 + 1 / 2 ^ 53)) := by ring
      _ ≤ margin * ((1 + 1 / 2 ^ 53) * (1 + 1 / 2 ^ 53)) := mul_le_mul_of_nonneg_right h (by positivity)
      _ < ceiling := margin_mul_lt
  case isFalse hj =>
    rcases n.eq_zero_or_pos with rfl | hpos
    · rfl
    · have hbig : (10 : ℚ) ^ 309 ≤ n * 10 ^ j := by
        calc (10 : ℚ) ^ 309 ≤ 10 ^ j := pow_le_pow_right₀ (by norm_num) (by omega)
          _ ≤ n * 10 ^ j := le_mul_of_one_le_left (by positivity) (by exact_mod_cast hpos)
      exact absurd (hbig.trans h) (not_le.mpr (margin_lt_ceiling.trans ceiling_lt_pow))

/-! ## What comes out -/

theorem bounded_getD {num den : Nat} : ((ofRatio num den).getD zero).Bounded := by
  cases h : ofRatio num den with
  | none => exact bounded_zero
  | some x => exact bounded_ofRatio h

/-- Dividing by a power of ten gives a double. -/
theorem bounded_downTen {x : Magnitude} (hx : x.Bounded) (k : Nat) : (x.downTen k).Bounded := by
  fun_induction downTen x k with
  | case1 => exact bounded_getD
  | case2 => exact hx
  | case3 x k _ _ ih => exact ih bounded_getD

/-- What a decimal is read as is a double. -/
theorem bounded_ofDecimal {n : Nat} {k : Int} {x : Magnitude} (h : ofDecimal n k = some x) : x.Bounded := by
  unfold ofDecimal at h
  simp only at h
  split at h
  · cases h
    exact bounded_downTen bounded_getD _
  split at h
  · exact bounded_ofRatio h
  split at h
  · cases h
    exact bounded_getD
  · nomatch h

end Magnitude

end QueryGateway.Json
