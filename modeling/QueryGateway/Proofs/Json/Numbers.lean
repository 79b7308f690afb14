import Mathlib.Data.List.TakeWhile
import QueryGateway.Proofs.Json.Literals

/-!
# Written numbers are read back

An integer is written with its digits and read as itself, a double with the fewest digits that will do, and these are
read as a double again (`Number.value?_literal`): no number that was read is too large once it has been written.
-/

namespace QueryGateway.Json

/-! ## Digits with zeros -/

/-- Digits are what is left of them and the zeros that were dropped. -/
theorem exists_dropZeros (ds : List Char) : ∃ k, ds = dropZeros ds ++ zeros k := by
  refine ⟨(ds.reverse.takeWhile (· = '0')).length, ?_⟩
  have hzeros : (ds.reverse.takeWhile (· = '0')).reverse = zeros (ds.reverse.takeWhile (· = '0')).length := by
    refine List.eq_replicate_iff.mpr ⟨List.length_reverse, fun c hc => ?_⟩
    have hzero := List.mem_takeWhile_imp (List.mem_reverse.mp hc)
    simpa using hzero
  calc ds = (ds.reverse.takeWhile (· = '0') ++ ds.reverse.dropWhile (· = '0')).reverse := by
        rw [List.takeWhile_append_dropWhile, List.reverse_reverse]
    _ = dropZeros ds ++ zeros (ds.reverse.takeWhile (· = '0')).length := by
        rw [List.reverse_append, hzeros]
        rfl

/-- Digits that do not start with a zero are not all dropped, and still do not start with one. -/
theorem head?_dropZeros {ds : List Char} (hne : ds ≠ []) (h : ds.head? ≠ some '0') :
    dropZeros ds ≠ [] ∧ (dropZeros ds).head? ≠ some '0' := by
  obtain ⟨k, hk⟩ := exists_dropZeros ds
  cases hleft : dropZeros ds with
  | nil =>
    rw [hleft, List.nil_append] at hk
    cases k with
    | zero => exact absurd hk hne
    | succ k => exact absurd (by rw [hk]; rfl) h
  | cons c cs =>
    rw [hleft] at hk
    rw [hk] at h
    exact ⟨List.cons_ne_nil _ _, h⟩

/-- Zeros at the end count as powers of ten. -/
theorem natOf_append_zeros (ds : List Char) (k : Nat) : (natOf (ds ++ zeros k) : ℚ) = natOf ds * 10 ^ k := by
  rw [natOf, Nat.ofDigitChars_append, zeros, Nat.ofDigitChars_replicate_zero]
  push_cast
  ring

/-- Zeros in front do not count. -/
theorem natOf_zeros_append (k : Nat) (ds : List Char) : natOf (zeros k ++ ds) = natOf ds := by
  rw [natOf, Nat.ofDigitChars_append, zeros, Nat.ofDigitChars_replicate_zero, Nat.mul_zero]

/-- Digits stand for a number with no more digits. -/
theorem natOf_lt {ds : List Char} (h : ∀ c ∈ ds, c.isDigit = true) : natOf ds < 10 ^ ds.length := by
  have hfrom : ∀ n, Nat.ofDigitChars 10 ds n < (n + 1) * 10 ^ ds.length := by
    induction ds with
    | nil => intro n; simp
    | cons c ds ih =>
      intro n
      have hdigit := (Char.isDigit_iff_toNat.mp (h c (by simp))).2
      have hvalue : 10 * n + (c.toNat - '0'.toNat) + 1 ≤ (n + 1) * 10 := by
        have hnine : '9'.toNat = '0'.toNat + 9 := by decide
        omega
      rw [Nat.ofDigitChars_cons]
      calc _ < (10 * n + (c.toNat - '0'.toNat) + 1) * 10 ^ ds.length := ih (fun d hd => h d (by simp [hd])) _
        _ ≤ (n + 1) * 10 * 10 ^ ds.length := Nat.mul_le_mul_right _ hvalue
        _ = (n + 1) * 10 ^ (c :: ds).length := by rw [List.length_cons, Nat.pow_succ, Nat.mul_assoc, Nat.mul_comm 10]
  simpa using hfrom 0

/-! ## Decimals as literals -/

namespace Literal

/-- The value of digits of which the first stands for a power of ten. -/
def scaled (first : Int) (ds : List Char) : ℚ :=
  natOf ds * 10 ^ (first + 1 - ds.length)

/-- Digits with the point at its place, at least one digit on each side of it. -/
def positional (first : Int) (ds : List Char) : Literal :=
  if 0 ≤ first then
    let whole := first.toNat + 1
    let ds := ds ++ zeros (whole - ds.length)
    let tail := ds.drop whole
    { whole := ds.take whole, fraction := some (if tail.isEmpty then ['0'] else tail) }
  else { whole := ['0'], fraction := some (zeros ((-first).toNat - 1) ++ ds) }

/-- Digits with the point behind the first and an exponent. -/
def scientific (first : Int) : List Char → Literal
  | [] => { whole := ['0'], exponent := some first }
  | [c] => { whole := [c], exponent := some first }
  | c :: rest => { whole := [c], fraction := some rest, exponent := some first }

section
variable (first : Int) (ds : List Char)

/-- Digits with their point stand for what they stood for. -/
theorem toRat_positional : (positional first ds).toRat = scaled first ds := by
  unfold positional scaled
  split
  case isTrue hfirst =>
    obtain ⟨w, rfl⟩ := Int.eq_ofNat_of_zero_le hfirst
    simp only [Int.toNat_natCast]
    set j := w + 1 - ds.length with hj
    have hwhole : (ds ++ zeros j).take (w + 1) ++ (ds ++ zeros j).drop (w + 1) = ds ++ zeros j :=
      List.take_append_drop _ _
    have hlength : ((ds ++ zeros j).drop (w + 1)).length = ds.length + j - (w + 1) := by
      rw [List.length_drop, List.length_append, zeros, List.length_replicate]
    rw [toRat]
    simp only [Option.getD_some, Option.getD_none]
    split
    case isTrue htail =>
      rw [List.isEmpty_iff] at htail
      rw [htail, List.append_nil] at hwhole
      rw [htail, List.length_nil] at hlength
      have hexp : ((w : Int) + 1 - ds.length) = (j : Int) := by omega
      rw [hwhole, show ['0'] = zeros 1 from rfl, natOf_append_zeros, natOf_append_zeros, hexp, zpow_natCast]
      norm_num [zeros]
      ring
    case isFalse htail =>
      have hpos : ((ds ++ zeros j).drop (w + 1)).length ≠ 0 := by
        rw [Ne, List.length_eq_zero_iff, ← List.isEmpty_iff]
        exact htail
      have hzeros : j = 0 := by omega
      have hexp : (0 : Int) - ((ds ++ zeros j).drop (w + 1)).length = w + 1 - ds.length := by omega
      rw [hwhole, hexp, natOf_append_zeros, hzeros, pow_zero, mul_one]
  case isFalse hfirst =>
    obtain ⟨j, rfl⟩ : ∃ j : Nat, first = -(j + 1 : Int) := ⟨(-first - 1).toNat, by omega⟩
    have hcount : (-(-((j : Int) + 1))).toNat - 1 = j := by omega
    have hzero : ['0'] ++ (zeros j ++ ds) = zeros (j + 1) ++ ds := rfl
    rw [toRat]
    simp only [Option.getD_some, Option.getD_none, hcount, hzero]
    rw [natOf_zeros_append, List.length_append, zeros, List.length_replicate]
    congr 2
    push_cast
    ring

/-- Digits with an exponent stand for what they stood for. -/
theorem toRat_scientific : (scientific first ds).toRat = scaled first ds := by
  rcases ds with _ | ⟨c, _ | ⟨d, ds⟩⟩
  · simp [scientific, scaled, toRat, Nat.ofDigitChars_cons, Nat.ofDigitChars_nil]
  · simp [scientific, scaled, toRat]
  · simp only [scientific, scaled, toRat, Option.getD_some, List.cons_append, List.nil_append]
    congr 2
    simp only [List.length_cons]
    push_cast
    ring

variable {first ds} (hds : AllDigits ds) (hhead : ds.head? ≠ some '0')
include hds hhead

/-- Digits with their point may be written. -/
theorem wellFormed_positional : (positional first ds).WellFormed := by
  have hzeros : ∀ k, ∀ c ∈ zeros k, c.isDigit = true := by
    intro k c hc
    rw [List.eq_of_mem_replicate hc]
    decide
  unfold positional
  split
  case isTrue =>
    set padded := ds ++ zeros (first.toNat + 1 - ds.length) with hpadded
    have hdigits : ∀ c ∈ padded, c.isDigit = true := by
      intro c hc
      rcases List.mem_append.mp hc with hc | hc
      · exact hds.isDigit c hc
      · exact hzeros _ c hc
    have hfirst : (padded.take (first.toNat + 1)).head? = ds.head? := by
      obtain ⟨c, cs, hc⟩ := List.exists_cons_of_ne_nil hds.ne_nil
      simp [hpadded, hc]
    refine ⟨⟨?_, fun c hc => hdigits c (List.mem_of_mem_take hc)⟩, ?_, ?_⟩
    · simp [hds.ne_nil]
    · intro hstarts
      exact absurd (hfirst.symm.trans hstarts) hhead
    · intro tail htail
      obtain rfl := Option.some.inj htail
      split
      · exact allDigits_zero
      case isFalse hne =>
        rw [List.isEmpty_iff] at hne
        exact ⟨hne, fun c hc => hdigits c (List.mem_of_mem_drop hc)⟩
  case isFalse =>
    refine ⟨allDigits_zero, fun _ => rfl, ?_⟩
    intro tail htail
    obtain rfl := Option.some.inj htail
    refine ⟨by simp [hds.ne_nil], fun c hc => ?_⟩
    rcases List.mem_append.mp hc with hc | hc
    · exact hzeros _ c hc
    · exact hds.isDigit c hc

/-- Digits with an exponent may be written. -/
theorem wellFormed_scientific : (scientific first ds).WellFormed := by
  obtain ⟨hne, hdigits⟩ := hds
  rcases ds with _ | ⟨c, _ | ⟨d, ds⟩⟩
  · exact absurd rfl hne
  · exact ⟨⟨by simp [scientific], by simpa [scientific] using hdigits⟩, by simp [scientific], by simp [scientific]⟩
  · refine ⟨⟨by simp [scientific], ?_⟩, by simp [scientific], ?_⟩
    · intro b hb
      obtain rfl : b = c := by simpa [scientific] using hb
      exact hdigits b (by simp)
    · intro tail htail
      obtain rfl := Option.some.inj htail
      exact ⟨by simp, fun b hb => hdigits b (by simp [hb])⟩

/-- The digits in front of a point at its place fit a significand when there are not too many of them. -/
theorem natOf_whole_positional (hfirst : first ≤ 15) : natOf (positional first ds).whole < UInt64.size := by
  have hwhole : AllDigits (positional first ds).whole := (wellFormed_positional hds hhead).whole
  have hlength : (positional first ds).whole.length ≤ 16 := by
    unfold positional
    split
    · simp only [List.length_take]
      omega
    · simp
  calc natOf (positional first ds).whole < 10 ^ (positional first ds).whole.length := natOf_lt hwhole.isDigit
    _ ≤ 10 ^ 16 := Nat.pow_le_pow_right (by decide) hlength
    _ < UInt64.size := by decide

/-- So does the one digit in front of a point with an exponent. -/
theorem natOf_whole_scientific : natOf (scientific first ds).whole < UInt64.size := by
  have hwhole : AllDigits (scientific first ds).whole := (wellFormed_scientific hds hhead).whole
  have hlength : (scientific first ds).whole.length = 1 := by
    rcases ds with _ | ⟨c, _ | ⟨d, ds⟩⟩ <;> rfl
  calc natOf (scientific first ds).whole < 10 ^ (scientific first ds).whole.length := natOf_lt hwhole.isDigit
    _ = 10 ^ 1 := by rw [hlength]
    _ < UInt64.size := by decide

end

end Literal

namespace Magnitude.Decimal

/-- The power of ten that the first digit of a decimal stands for. -/
def first (d : Decimal) : Int := d.exponent + (digitsOf d.digits).length - 1

/-- A decimal as a literal. -/
def literal (l : Layout) (d : Decimal) : Literal :=
  if l.lowest ≤ d.first ∧ d.first ≤ l.highest then .positional d.first (dropZeros (digitsOf d.digits))
  else .scientific d.first (dropZeros (digitsOf d.digits))

/-- A decimal is written as its literal. -/
theorem chars_literal (l : Layout) (d : Decimal) : (d.literal l).chars = d.render l := by
  unfold render literal first
  simp only
  split
  · unfold Literal.positional
    split <;> simp [Literal.chars, Literal.fractionChars, Literal.exponentChars]
  · rcases dropZeros (digitsOf d.digits) with _ | ⟨c, _ | ⟨c', cs⟩⟩ <;>
      simp [Literal.scientific, Literal.chars, Literal.fractionChars, Literal.exponentChars]

/-- The digits that are left of a positive decimal. -/
theorem dropZeros_spec {d : Decimal} (h : 0 < d.digits) :
    AllDigits (dropZeros (digitsOf d.digits)) ∧ (dropZeros (digitsOf d.digits)).head? ≠ some '0' := by
  obtain ⟨hne, hdigits⟩ := allDigits_digitsOf d.digits
  obtain ⟨hne', hhead⟩ := head?_dropZeros hne (head?_digitsOf h)
  obtain ⟨k, hk⟩ := exists_dropZeros (digitsOf d.digits)
  exact ⟨⟨hne', fun c hc => hdigits c (by rw [hk]; simp [hc])⟩, hhead⟩

/-- The literal of a positive decimal may be written. -/
theorem wellFormed_literal (l : Layout) {d : Decimal} (h : 0 < d.digits) : (d.literal l).WellFormed := by
  obtain ⟨hds, hhead⟩ := dropZeros_spec h
  unfold literal
  split
  · exact Literal.wellFormed_positional hds hhead
  · exact Literal.wellFormed_scientific hds hhead

/-- A literal stands for its decimal. -/
theorem toRat_literal (l : Layout) (d : Decimal) : (d.literal l).toRat = d.toRat := by
  have hscaled : Literal.scaled d.first (dropZeros (digitsOf d.digits)) = d.toRat := by
    obtain ⟨k, hk⟩ := exists_dropZeros (digitsOf d.digits)
    have hvalue : (d.digits : ℚ) = natOf (dropZeros (digitsOf d.digits)) * 10 ^ k := by
      rw [← natOf_append_zeros, ← hk, natOf_digitsOf]
    have hlength : (digitsOf d.digits).length = (dropZeros (digitsOf d.digits)).length + k := by
      conv_lhs => rw [hk, List.length_append, zeros, List.length_replicate]
    rw [Literal.scaled, toRat, hvalue, first, hlength, mul_assoc, ← zpow_natCast, ← zpow_add₀ (by norm_num)]
    congr 2
    push_cast
    ring
  unfold literal
  split
  · rw [Literal.toRat_positional, hscaled]
  · rw [Literal.toRat_scientific, hscaled]

/-- The whole part of a literal fits a significand. -/
theorem natOf_whole_literal {d : Decimal} (h : 0 < d.digits) : natOf (d.literal layout).whole < UInt64.size := by
  obtain ⟨hds, hhead⟩ := dropZeros_spec h
  unfold literal
  split
  case isTrue hlayout => exact Literal.natOf_whole_positional hds hhead hlayout.2
  case isFalse => exact Literal.natOf_whole_scientific hds hhead

/-- A positive decimal up to the margin is read. -/
theorem value?_isSome {d : Decimal} (h : 0 < d.digits) (hle : d.toRat ≤ margin) (negative : Bool) :
    ((d.literal layout).numeral negative).value?.isSome :=
  Literal.value?_isSome (natOf_whole_literal h) ((toRat_literal layout d).trans_le hle) negative

end Magnitude.Decimal

/-! ## Numbers -/

namespace Number

/-- Whether a number is written with a minus. -/
def negative : Number → Bool
  | int i => i < 0
  | real x => x.negative

/-- The literal of a number. -/
def literal : Number → Literal
  | int i => { whole := digitsOf i.natAbs }
  | real x =>
    if x.magnitude.m = 0 then { whole := ['0'], fraction := some ['0'] } else x.magnitude.shortest.literal layout

/-- A number that can have been read. -/
def Sound : Number → Prop
  | int i => -(2 ^ 63) ≤ i ∧ i < 2 ^ 64
  | real x => x.magnitude.Bounded

/-- What a number is once it has been written and read again: an integer is the same, a double may differ in its last
places. -/
def reread (n : Number) : Number :=
  ((n.literal.numeral n.negative).value?).getD n

/-- A number is written as its literal, a minus in front of a negative one. -/
theorem render_eq (n : Number) : n.render = if n.negative then '-' :: n.literal.chars else n.literal.chars := by
  cases n with
  | int i =>
    simp [render, renderInt, negative, literal, Literal.chars, Literal.fractionChars, Literal.exponentChars]
  | real x =>
    by_cases hm : x.magnitude.m = 0
    · simp [render, Binary64.render, negative, literal, hm, Literal.chars, Literal.fractionChars, Literal.exponentChars]
    · simp [render, Binary64.render, negative, literal, hm, Magnitude.Decimal.chars_literal]

/-- The literal of a number may be written. -/
theorem wellFormed_literal (n : Number) : n.literal.WellFormed := by
  cases n with
  | int i =>
    refine ⟨allDigits_digitsOf _, fun hzero => ?_, nofun⟩
    rcases Nat.eq_zero_or_pos i.natAbs with h | h
    · simp only [literal, h]
      rfl
    · exact absurd hzero (head?_digitsOf h)
  | real x =>
    by_cases hm : x.magnitude.m = 0
    · simp only [literal, hm, if_true]
      exact ⟨allDigits_zero, fun _ => rfl, fun ds hds => Option.some.inj hds ▸ allDigits_zero⟩
    · simp only [literal, hm, if_false]
      exact Magnitude.Decimal.wellFormed_literal layout (Magnitude.shortest_spec (Nat.pos_of_ne_zero hm)).1

/-- An integer is read as itself. -/
theorem value?_int {i : Int} (h : (int i).Sound) : ((int i).literal.numeral (int i).negative).value? = some (int i) := by
  obtain ⟨hlow, hhigh⟩ := h
  have hsize : UInt64.size = 2 ^ 64 := by decide
  have hfits : natOf (digitsOf i.natAbs) < UInt64.size := by
    rw [natOf_digitsOf, hsize]
    omega
  simp only [Numeral.value?, Literal.numeral, literal, Numeral.absorb_map_of_lt hfits, Option.map_none, if_true,
    natOf_digitsOf, Numeral.ofInteger, negative]
  by_cases hneg : i < 0
  · have hrange : i.natAbs ≠ 0 ∧ i.natAbs ≤ UInt64.size / 2 := by
      rw [hsize]
      omega
    rw [if_neg (by simp [hneg]), if_pos hrange, Int.ofNat_natAbs_of_nonpos (by omega), neg_neg]
  · rw [if_pos (by simp [hneg]), Int.natAbs_of_nonneg (by omega)]

/-- A double is read as a double. The two largest are looked at one by one. -/
theorem value?_real {x : Binary64} (h : x.magnitude.Bounded) :
    ((real x).literal.numeral (real x).negative).value?.isSome := by
  obtain ⟨negative, m, e⟩ := x
  by_cases hm : m = 0
  · subst hm
    have hzero : ∀ negative, (({ whole := ['0'], fraction := some ['0'] } : Literal).numeral negative).value?.isSome := by
      decide +kernel
    exact hzero negative
  have hliteral : (real ⟨negative, m, e⟩).literal = (Magnitude.shortest ⟨m, e⟩).literal layout := by
    simp only [literal, hm, if_false]
  rw [hliteral]
  have hpos := Nat.pos_of_ne_zero hm
  by_cases hlargest : e = 971 → m + 3 ≤ 2 ^ 53
  · exact Magnitude.Decimal.value?_isSome (Magnitude.shortest_spec hpos).1
      (Magnitude.shortest_toRat_le h hpos hlargest) _
  · have hm_lt : m < 2 ^ 53 := h.m_lt
    obtain ⟨rfl, hm' | hm'⟩ : e = 971 ∧ (m = 2 ^ 53 - 1 ∨ m = 2 ^ 53 - 2) := by omega
    · rw [hm', Magnitude.shortest_largest.1]
      cases negative <;> decide +kernel
    · rw [hm', Magnitude.shortest_largest.2]
      cases negative <;> decide +kernel

/-- What is written of a number is read. -/
theorem value?_literal {n : Number} (h : n.Sound) : (n.literal.numeral n.negative).value? = some n.reread := by
  have hsome : (n.literal.numeral n.negative).value?.isSome := by
    cases n with
    | int i => rw [value?_int h]; rfl
    | real x => exact value?_real h
  obtain ⟨r, hr⟩ := Option.isSome_iff_exists.mp hsome
  rw [reread, hr, Option.getD_some]

end Number

/-- A number is written as a spelling of its numeral. -/
theorem Number.spelled_render (n : Number) : (n.literal.numeral n.negative).Spelled n.render :=
  ⟨n.literal.chars, Literal.spelledBare n.wellFormed_literal n.negative, n.render_eq⟩

/-! ## What is read -/

namespace Numeral

/-- A significand stays below 2^64. -/
theorem absorb_lt (ds : List Nat) {n : Nat} (h : n < UInt64.size) : (absorb n ds).1 < UInt64.size := by
  induction ds generalizing n with
  | nil => exact h
  | cons d ds ih =>
    rw [absorb]
    split
    case isTrue hfits => exact ih hfits
    case isFalse => exact h

theorem sound_real? {negative : Bool} {m : Nat} {k : Int} {n : Number} (h : real? negative m k = some n) : n.Sound := by
  obtain ⟨x, hx, rfl⟩ := Option.map_eq_some_iff.mp h
  exact Magnitude.bounded_ofDecimal hx

/-- The value of a literal is a number in range. -/
theorem sound_value? {x : Numeral} {n : Number} (h : x.value? = some n) : n.Sound := by
  have hsize : UInt64.size = 2 ^ 64 := by decide
  have hfits : (absorb 0 x.whole).1 < UInt64.size := absorb_lt _ (by decide)
  unfold value? at h
  simp only at h
  split at h
  · split at h
    · unfold ofInteger at h
      split at h
      · cases h
        exact ⟨by omega, by omega⟩
      split at h
      case isTrue hnegative =>
        cases h
        exact ⟨by omega, by omega⟩
      · exact sound_real? h
    · exact sound_real? h
  · exact sound_real? h

end Numeral

end QueryGateway.Json
