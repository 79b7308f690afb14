import Mathlib.Tactic.FieldSimp
import QueryGateway.Proofs.Json.Rounding

/-!
# The fewest digits are not too many

The decimal that is written for a double lies within half of a last place of it, so it is read as some double again
(`shortest_toRat_le`). Only for the two largest doubles is that too coarse an argument; theirs are looked at one by one
(`shortest_largest`).
-/

namespace QueryGateway.Json.Magnitude

/-- The value of a decimal. -/
def Decimal.toRat (d : Decimal) : ℚ := d.digits * 10 ^ d.exponent

/-- What lies in a basin is not above its upper end. -/
theorem Basin.le_of_holds {b : Basin} {num den : Nat} (h : b.holds num den = true) : num ≤ b.high * den := by
  unfold holds at h
  split at h <;> simp at h <;> omega

/-- A decimal on a grid is positive and not above the basin of its double: whichever of the two neighbours is taken, it
reads back. -/
theorem onGrid?_spec {x : Magnitude} {g : Int} {d : Decimal} (h : x.onGrid? g = some d) :
    0 < d.digits ∧ d.toRat ≤ (x.m + 1 / 2) * 2 ^ x.e := by
  rcases hscale2 : scaleTwo 1 1 (2 - x.e) with ⟨n2, d2⟩
  rcases hscale : scaleTen n2 d2 g with ⟨n, den⟩
  obtain ⟨hd2, hratio2⟩ := scaleTwo_ratio 1 one_pos (2 - x.e) hscale2
  obtain ⟨hden, hratio⟩ := scaleTen_ratio n2 hd2 g hscale
  have hholds : (0 < d.digits ∧ x.basin.holds (d.digits * n) den = true) ∧ d.exponent = g := by
    simp only [onGrid?, hscale2, hscale] at h
    set holds : Nat → Bool := fun c => 0 < c && x.basin.holds (c * n) den with hholds
    have htrue : ∀ c, holds c = true → 0 < c ∧ x.basin.holds (c * n) den = true := by
      intro c hc
      simpa [hholds] using hc
    split at h
    case h_1 hbelow habove =>
      split at h
      · cases h
        exact ⟨htrue _ hbelow, rfl⟩
      split at h
      · cases h
        exact ⟨htrue _ habove, rfl⟩
      split at h
      · cases h
        exact ⟨htrue _ hbelow, rfl⟩
      · cases h
        exact ⟨htrue _ habove, rfl⟩
    case h_2 hbelow _ =>
      cases h
      exact ⟨htrue _ hbelow, rfl⟩
    case h_3 _ habove =>
      cases h
      exact ⟨htrue _ habove, rfl⟩
    case h_4 => nomatch h
  obtain ⟨⟨hpos, hin⟩, hexp⟩ := hholds
  refine ⟨hpos, ?_⟩
  have hle : (d.digits * n : ℚ) ≤ (4 * x.m + 2) * den := by
    have hnat : d.digits * n ≤ (4 * x.m + 2) * den := Basin.le_of_holds hin
    exact_mod_cast hnat
  have hden' : (0 : ℚ) < den := by exact_mod_cast hden
  have hpow : (0 : ℚ) < 2 ^ x.e := by positivity
  have hstep : (n : ℚ) / den = 4 / 2 ^ x.e * 10 ^ g := by
    rw [hratio, hratio2, zpow_sub₀ two_ne_zero]
    norm_num
  rw [← div_le_iff₀ hden', mul_div_assoc, hstep] at hle
  rw [Decimal.toRat, hexp]
  calc (d.digits : ℚ) * 10 ^ g = d.digits * (4 / 2 ^ x.e * 10 ^ g) * (2 ^ x.e / 4) := by field_simp
    _ ≤ (4 * x.m + 2) * (2 ^ x.e / 4) := by gcongr
    _ = (x.m + 1 / 2) * 2 ^ x.e := by ring

/-- The shortest decimal is positive, and it is on a grid unless it is the significand itself. -/
theorem shortestFrom_spec {x : Magnitude} (hm : 0 < x.m) (top : Int) (left count : Nat) :
    0 < (x.shortestFrom top left count).digits ∧
      ((x.shortestFrom top left count).toRat ≤ (x.m + 1 / 2) * 2 ^ x.e ∨ x.shortestFrom top left count = ⟨x.m, 0⟩) := by
  induction left generalizing count with
  | zero => exact ⟨hm, .inr rfl⟩
  | succ left ih =>
    rw [shortestFrom]
    split
    case h_1 d h =>
      obtain ⟨hpos, hle⟩ := onGrid?_spec h
      exact ⟨hpos, .inl hle⟩
    case h_2 => exact ih (count + 1)

theorem shortest_spec {x : Magnitude} (hm : 0 < x.m) :
    0 < x.shortest.digits ∧ (x.shortest.toRat ≤ (x.m + 1 / 2) * 2 ^ x.e ∨ x.shortest = ⟨x.m, 0⟩) := by
  unfold shortest
  exact shortestFrom_spec hm _ _ _

/-- The shortest decimal of a double that is not one of the two largest keeps the margin. -/
theorem shortest_toRat_le {x : Magnitude} (hx : x.Bounded) (hm : 0 < x.m)
    (hlargest : x.e = 971 → x.m + 3 ≤ 2 ^ 53) : x.shortest.toRat ≤ margin := by
  have hlt : (x.m : ℚ) + 1 ≤ 2 ^ 53 := by exact_mod_cast hx.m_lt
  rcases (shortest_spec hm).2 with hle | heq
  · refine hle.trans ?_
    by_cases he : x.e = 971
    · have hnat := hlargest he
      have hthree : (x.m : ℚ) + 3 ≤ 2 ^ 53 := by exact_mod_cast hnat
      rw [he, margin]
      exact mul_le_mul_of_nonneg_right (by linarith) (by positivity)
    · have he' : x.e ≤ 970 := by have := hx.e_le; omega
      calc ((x.m : ℚ) + 1 / 2) * 2 ^ x.e ≤ 2 ^ 53 * 2 ^ (970 : Int) := by
            refine mul_le_mul (by linarith) (zpow_le_zpow_right₀ one_le_two he') (by positivity) (by positivity)
        _ ≤ (2 ^ 53 - 5 / 2) * 2 * 2 ^ (970 : Int) := mul_le_mul_of_nonneg_right (by norm_num) (by positivity)
        _ = margin := by
          rw [margin, show (971 : Int) = 1 + 970 by norm_num, zpow_add₀ two_ne_zero, zpow_one]
          ring
  · have htwo : (2 : ℚ) ^ (1 : Int) ≤ 2 ^ (971 : Int) := zpow_le_zpow_right₀ one_le_two (by norm_num)
    rw [heq, Decimal.toRat, zpow_zero, mul_one, margin]
    calc (x.m : ℚ) ≤ (2 ^ 53 - 5 / 2) * 2 ^ (1 : Int) := by rw [zpow_one]; linarith
      _ ≤ (2 ^ 53 - 5 / 2) * 2 ^ (971 : Int) := mul_le_mul_of_nonneg_left htwo (by norm_num)

/-- The shortest decimals of the two largest doubles. -/
theorem shortest_largest :
    shortest ⟨2 ^ 53 - 1, 971⟩ = ⟨17976931348623157, 292⟩ ∧ shortest ⟨2 ^ 53 - 2, 971⟩ = ⟨17976931348623155, 292⟩ := by
  decide +kernel

end QueryGateway.Json.Magnitude
