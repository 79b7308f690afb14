import Mathlib.Tactic.IntervalCases
import QueryGateway.Proofs.Json.Nesting
import QueryGateway.Proofs.Json.Shortest

/-!
# Number literals

A literal is a whole part, perhaps a fraction and perhaps an exponent. Its text is read as the numeral with its digits
(`numeral_append`), and the numeral has a value unless it is too large (`value?_isSome`).
-/

namespace QueryGateway.Json

open Text (Segment)

/-! ## Digits -/

/-- The value of a decimal digit. -/
def digitValue (c : Char) : Nat := c.toNat - '0'.toNat

/-- The number that digits stand for. -/
abbrev natOf (cs : List Char) : Nat := Nat.ofDigitChars 10 cs 0

/-- One or more digits. -/
structure AllDigits (cs : List Char) : Prop where
  ne_nil : cs ≠ []
  isDigit : ∀ c ∈ cs, c.isDigit = true

/-- A zero alone will do. -/
theorem allDigits_zero : AllDigits ['0'] where
  ne_nil := List.cons_ne_nil _ _
  isDigit c hc := by
    rw [List.mem_singleton.mp hc]
    decide

theorem digit?_char {c : Char} (h : c.isDigit = true) : digit? (.char c) = some (digitValue c) := by
  rw [digit?, if_pos h]
  rfl

/-- Digits are taken up to where they end. -/
theorem leadingDigits_append {cs : List Char} (h : ∀ c ∈ cs, c.isDigit = true) {rest : Source}
    (hrest : ∀ p ∈ rest.head?, isDigit p = false) :
    leadingDigits (Source.ofChars cs ++ rest) = cs.map digitValue ∧ pastDigits (Source.ofChars cs ++ rest) = rest := by
  induction cs with
  | nil =>
    cases rest with
    | nil => exact ⟨rfl, rfl⟩
    | cons p rest =>
      have hp : isDigit p = false := hrest p (by simp)
      simp [leadingDigits, pastDigits, hp]
  | cons c cs ih =>
    obtain ⟨hleading, hpast⟩ := ih fun d hd => h d (by simp [hd])
    have hc : digit? (.char c) = some (digitValue c) := digit?_char (h c (by simp))
    have hdigit : isDigit (.char c) = true := by rw [isDigit, hc]; rfl
    unfold leadingDigits at hleading ⊢
    unfold pastDigits at hpast ⊢
    rw [Source.ofChars_cons, List.cons_append, List.takeWhile_cons, List.dropWhile_cons, if_pos hdigit, if_pos hdigit,
      List.filterMap_cons, hc, hleading, hpast]
    exact ⟨rfl, rfl⟩

theorem digits_append {cs : List Char} (h : AllDigits cs) {rest : Source}
    (hrest : ∀ p ∈ rest.head?, isDigit p = false) :
    digits (Source.ofChars cs ++ rest) = .ok (cs.map digitValue, rest) := by
  obtain ⟨hleading, hpast⟩ := leadingDigits_append h.isDigit hrest
  cases cs with
  | nil => exact absurd rfl h.ne_nil
  | cons c cs =>
    have hdigit : isDigit (.char c) = true := by rw [isDigit, digit?_char (h.isDigit c (by simp))]; rfl
    rw [Source.ofChars_cons, List.cons_append] at hleading hpast ⊢
    rw [digits, if_pos hdigit, hleading, hpast]

/-- Taking digits one after the other. -/
theorem foldl_digitValue (cs : List Char) (n : Nat) :
    (cs.map digitValue).foldl (fun n d => n * 10 + d) n = Nat.ofDigitChars 10 cs n := by
  rw [List.foldl_map, Nat.ofDigitChars_eq_foldl]
  simp only [Nat.mul_comm, digitValue]

theorem natOfDigits_map (cs : List Char) : natOfDigits (cs.map digitValue) = natOf cs :=
  foldl_digitValue cs 0

/-- The digits of a number are digits and stand for it. -/
theorem allDigits_digitsOf (n : Nat) : AllDigits (digitsOf n) where
  ne_nil := Nat.toDigits_ne_nil
  isDigit _ := Nat.isDigit_of_mem_toDigits (by decide) (by decide)

theorem natOf_digitsOf (n : Nat) : natOf (digitsOf n) = n :=
  Nat.ofDigitChars_ten_toDigits

/-- The digits of a positive number do not start with a zero. -/
theorem head?_digitsOf {n : Nat} (h : 0 < n) : (digitsOf n).head? ≠ some '0' := by
  induction n using Nat.strongRecOn with
  | _ n ih =>
    unfold digitsOf at ih ⊢
    by_cases hsmall : n < 10
    · rw [Nat.toDigits_of_lt_base hsmall]
      interval_cases n <;> decide
    · rw [Nat.toDigits_of_base_le (by decide) (by omega), List.head?_append]
      have hhead := ih (n / 10) (by omega) (by omega)
      cases hfirst : (Nat.toDigits 10 (n / 10)).head? with
      | none => exact absurd (List.head?_eq_none_iff.mp hfirst) Nat.toDigits_ne_nil
      | some c => rwa [hfirst] at hhead

/-! ## Literals -/

/-- A literal without its sign. -/
structure Literal where
  whole : List Char
  fraction : Option (List Char) := none
  exponent : Option Int := none

namespace Literal

/-- The text of a fraction. -/
def fractionChars : Option (List Char) → List Char
  | none => []
  | some ds => '.' :: ds

/-- The text of an exponent, always with its sign. -/
def exponentChars : Option Int → List Char
  | none => []
  | some e => 'e' :: (if 0 ≤ e then '+' else '-') :: digitsOf e.natAbs

/-- The text of a literal. -/
def chars (l : Literal) : List Char :=
  l.whole ++ (fractionChars l.fraction ++ exponentChars l.exponent)

/-- The numeral that a literal is read as. -/
def numeral (l : Literal) (negative : Bool) : Numeral :=
  ⟨negative, l.whole.map digitValue, l.fraction.map (·.map digitValue), l.exponent⟩

/-- A literal that may be written: digits wherever there must be some, and no zero in front of others. -/
structure WellFormed (l : Literal) : Prop where
  whole : AllDigits l.whole
  first : l.whole.head? = some '0' → l.whole = ['0']
  fraction : ∀ ds, l.fraction = some ds → AllDigits ds

/-- The value of a literal. -/
def toRat (l : Literal) : ℚ :=
  natOf (l.whole ++ l.fraction.getD []) * 10 ^ (l.exponent.getD 0 - (l.fraction.getD []).length)

end Literal

/-! ## Spellings -/

/-- How a fraction may be spelled. -/
inductive SpelledFraction : Option (List Nat) → List Char → Prop where
  | absent : SpelledFraction none []
  | present {ds : List Char} : AllDigits ds → SpelledFraction (some (ds.map digitValue)) ('.' :: ds)

/-- How an exponent may be spelled: behind either letter, with a sign or without. -/
inductive SpelledExponent : Option Int → List Char → Prop where
  | absent : SpelledExponent none []
  | bare {letter : Char} {ds : List Char} : letter = 'e' ∨ letter = 'E' → AllDigits ds →
      SpelledExponent (some (natOf ds)) (letter :: ds)
  | plus {letter : Char} {ds : List Char} : letter = 'e' ∨ letter = 'E' → AllDigits ds →
      SpelledExponent (some (natOf ds)) (letter :: '+' :: ds)
  | minus {letter : Char} {ds : List Char} : letter = 'e' ∨ letter = 'E' → AllDigits ds →
      SpelledExponent (some (-natOf ds)) (letter :: '-' :: ds)

/-- How a numeral may be spelled behind its sign: with digits wherever there must be some, and no zero in front of
others. -/
inductive Numeral.SpelledBare (x : Numeral) : List Char → Prop where
  | mk {whole fraction exponent : List Char} : AllDigits whole → (whole.head? = some '0' → whole = ['0']) →
      x.whole = whole.map digitValue → SpelledFraction x.fraction fraction → SpelledExponent x.exponent exponent →
      SpelledBare x (whole ++ (fraction ++ exponent))

/-- The spelling starts with a digit. -/
theorem Numeral.SpelledBare.eq_cons {x : Numeral} {t : List Char} (h : x.SpelledBare t) :
    ∃ c cs, t = c :: cs ∧ c.isDigit = true := by
  obtain ⟨hwhole⟩ := h
  obtain ⟨c, cs, rfl⟩ := List.exists_cons_of_ne_nil hwhole.ne_nil
  exact ⟨c, _, rfl, hwhole.isDigit c (by simp)⟩

/-- How a numeral may be spelled. -/
def Numeral.Spelled (x : Numeral) (t : List Char) : Prop :=
  ∃ u, x.SpelledBare u ∧ t = if x.negative then '-' :: u else u

/-- The text of a literal is one of the spellings of its numeral. -/
theorem Literal.spelledBare {l : Literal} (h : l.WellFormed) (negative : Bool) :
    (l.numeral negative).SpelledBare l.chars := by
  have hfraction : SpelledFraction (l.fraction.map (·.map digitValue)) (fractionChars l.fraction) := by
    cases hfraction : l.fraction with
    | none => exact .absent
    | some ds => exact .present (h.fraction ds hfraction)
  have hexponent : SpelledExponent l.exponent (exponentChars l.exponent) := by
    cases l.exponent with
    | none => exact .absent
    | some e =>
      have hdigits := allDigits_digitsOf e.natAbs
      rw [exponentChars]
      split
      case isTrue hsign =>
        have hplus := SpelledExponent.plus (.inl rfl) hdigits
        rwa [natOf_digitsOf, Int.natAbs_of_nonneg hsign] at hplus
      case isFalse hsign =>
        have hminus := SpelledExponent.minus (.inl rfl) hdigits
        rwa [natOf_digitsOf, Int.ofNat_natAbs_of_nonpos (by omega), neg_neg] at hminus
  exact .mk h.whole h.first rfl hfraction hexponent

/-! ## Spellings are read -/

/-- The only digit of value zero is the zero. -/
theorem eq_zero_of_digitValue {c : Char} (h : c.isDigit = true) (hvalue : digitValue c = 0) : c = '0' := by
  have hrange := (Char.isDigit_iff_toNat.mp h).1
  have hnat : c.toNat = '0'.toNat := by
    unfold digitValue at hvalue
    omega
  exact Char.toNat_inj.mp hnat

section
variable {rest : Source}

/-- The whole part is read up to what cannot go on with it. -/
theorem wholeDigits_append {whole : List Char} (h : AllDigits whole) (hfirst : whole.head? = some '0' → whole = ['0'])
    (hrest : ∀ p ∈ rest.head?, isDigit p = false) :
    wholeDigits (Source.ofChars whole ++ rest) = .ok (whole.map digitValue, rest) := by
  rw [wholeDigits, digits_append h hrest]
  simp only [bind, Except.bind]
  cases whole with
  | nil => exact absurd rfl h.ne_nil
  | cons c cs =>
    split
    case h_1 heq =>
      rw [List.map_cons, List.cons.injEq] at heq
      obtain rfl := eq_zero_of_digitValue (h.isDigit c (by simp)) heq.1
      obtain rfl : cs = [] := by simpa using hfirst rfl
      nomatch heq.2
    case h_2 => rfl

/-- The fraction is read up to what cannot go on with it; without one the reader stays where it is. -/
theorem fractionDigits_append {places : Option (List Nat)} {t : List Char} (h : SpelledFraction places t)
    (hdigit : ∀ p ∈ rest.head?, isDigit p = false) (hpoint : ∀ p ∈ rest.head?, p ≠ .char '.') :
    fractionDigits (Source.ofChars t ++ rest) = .ok (places, rest) := by
  cases h with
  | absent =>
    cases rest with
    | nil => rfl
    | cons p rest =>
      have hp : p ≠ .char '.' := hpoint p (by simp)
      change fractionDigits (p :: rest) = .ok (none, p :: rest)
      unfold fractionDigits
      split
      · rename_i heq
        cases heq
        exact absurd rfl hp
      · rfl
  | present hdigits =>
    rw [Source.ofChars_cons, List.cons_append, fractionDigits, digits_append hdigits hdigit]
    rfl

/-- Behind the letter of an exponent there are digits, perhaps with a sign in front. -/
theorem exponentDigits_letter {letter : Char} (h : letter = 'e' ∨ letter = 'E') {ds : List Char} (hdigits : AllDigits ds)
    (hrest : ∀ p ∈ rest.head?, isDigit p = false) :
    exponentDigits (Source.ofChars (letter :: '+' :: ds) ++ rest) = .ok (some (natOf ds : Int), rest) ∧
      exponentDigits (Source.ofChars (letter :: '-' :: ds) ++ rest) = .ok (some (-natOf ds : Int), rest) ∧
      exponentDigits (Source.ofChars (letter :: ds) ++ rest) = .ok (some (natOf ds : Int), rest) := by
  have hread := digits_append hdigits hrest
  have hvalue := natOfDigits_map ds
  obtain ⟨c, cs, rfl⟩ := List.exists_cons_of_ne_nil hdigits.ne_nil
  have hc : c.isDigit = true := hdigits.isDigit c (by simp)
  have hplus : c ≠ '+' := by rintro rfl; exact absurd hc (by decide)
  have hminus : c ≠ '-' := by rintro rfl; exact absurd hc (by decide)
  rw [List.map_cons] at hvalue
  simp only [Source.ofChars_cons, List.cons_append] at hread ⊢
  rcases h with rfl | rfl <;> simp [exponentDigits, hread, bind, Except.bind, hvalue, hplus, hminus]

/-- The exponent is read up to what cannot go on with it; without one the reader stays where it is. -/
theorem exponentDigits_append {e : Option Int} {t : List Char} (h : SpelledExponent e t) (hrest : rest.Breaks) :
    exponentDigits (Source.ofChars t ++ rest) = .ok (e, rest) := by
  have hend : ∀ p ∈ rest.head?, isDigit p = false := fun p hp => (hrest p hp).1
  cases h with
  | absent =>
    cases rest with
    | nil => rfl
    | cons p rest =>
      obtain ⟨-, -, hlower, hupper⟩ := hrest p (by simp)
      change exponentDigits (p :: rest) = .ok (none, p :: rest)
      unfold exponentDigits
      split
      · rename_i heq
        cases heq
        exact absurd rfl hlower
      · rename_i heq
        cases heq
        exact absurd rfl hupper
      · rfl
  | bare hletter hdigits => exact (exponentDigits_letter hletter hdigits hend).2.2
  | plus hletter hdigits => exact (exponentDigits_letter hletter hdigits hend).1
  | minus hletter hdigits => exact (exponentDigits_letter hletter hdigits hend).2.1

/-- A spelled numeral is read as that numeral, and what cannot go on with it is left over. -/
theorem numeral_append {x : Numeral} {t : List Char} (h : x.SpelledBare t) (hrest : rest.Breaks) :
    numeral x.negative (Source.ofChars t ++ rest) = .ok (x, rest) := by
  obtain ⟨negative, ds, places, e⟩ := x
  obtain ⟨hwhole, hfirst, rfl, hfraction, hexponent⟩ := h
  rename_i whole fraction exponent
  have hexponentHead : ∀ p ∈ (Source.ofChars exponent ++ rest).head?, isDigit p = false ∧ p ≠ .char '.' := by
    have hletter : ∀ letter : Char, letter = 'e' ∨ letter = 'E' → ∀ p ∈ [Segment.char letter].head?,
        isDigit p = false ∧ p ≠ .char '.' := by
      rintro letter (rfl | rfl) <;> decide
    cases hexponent with
    | absent => exact fun p hp => ⟨(hrest p hp).1, (hrest p hp).2.1⟩
    | bare h | plus h | minus h => exact hletter _ h
  have hfractionHead : ∀ p ∈ (Source.ofChars fraction ++ (Source.ofChars exponent ++ rest)).head?, isDigit p = false := by
    cases hfraction with
    | absent => exact fun p hp => (hexponentHead p hp).1
    | present =>
      intro p hp
      obtain rfl : .char '.' = p := by simpa using hp
      decide
  rw [Source.ofChars_append, Source.ofChars_append, List.append_assoc, List.append_assoc, numeral,
    wholeDigits_append hwhole hfirst hfractionHead]
  simp only [bind, Except.bind, fractionDigits_append hfraction (fun p hp => (hexponentHead p hp).1)
    (fun p hp => (hexponentHead p hp).2), exponentDigits_append hexponent hrest]

end

/-! ## What is read is spelled -/

section
variable {s rest : Source}

/-- The digits at the front of a text are characters. -/
theorem exists_leadingDigits (s : Source) :
    ∃ cs, (∀ c ∈ cs, c.isDigit = true) ∧ leadingDigits s = cs.map digitValue ∧ s = Source.ofChars cs ++ pastDigits s := by
  induction s with
  | nil => exact ⟨[], by simp, rfl, rfl⟩
  | cons p s ih =>
    obtain ⟨cs, hdigits, hleading, hs⟩ := ih
    unfold leadingDigits pastDigits at *
    cases hp : isDigit p with
    | false => exact ⟨[], by simp, by simp [hp], by simp [hp]⟩
    | true =>
      cases p with
      | broken part => cases hp
      | char c =>
        have hc : c.isDigit = true := by
          rw [isDigit, digit?] at hp
          by_contra hc
          simp [hc] at hp
        refine ⟨c :: cs, ?_, ?_, ?_⟩
        · simpa [hc] using hdigits
        · rw [List.takeWhile_cons_of_pos hp, List.filterMap_cons, digit?_char hc, hleading, List.map_cons]
        · rw [List.dropWhile_cons_of_pos hp, Source.ofChars_cons, List.cons_append, ← hs]

/-- What is read as digits is digits. -/
theorem exists_allDigits_of_digits {ds : List Nat} (h : digits s = .ok (ds, rest)) :
    ∃ cs, AllDigits cs ∧ ds = cs.map digitValue ∧ s = Source.ofChars cs ++ rest := by
  obtain ⟨cs, hdigits, hleading, hs⟩ := exists_leadingDigits s
  cases s with
  | nil => cases h
  | cons p s =>
    rw [digits] at h
    split at h
    case isFalse => cases h
    case isTrue hp =>
      cases h
      refine ⟨cs, ⟨?_, hdigits⟩, hleading, hs⟩
      rintro rfl
      obtain ⟨d, hd⟩ := Option.isSome_iff_exists.mp hp
      simp [leadingDigits, hp, hd] at hleading

/-- What is read as a whole part is digits, with a zero in front only if it is alone. -/
theorem exists_whole_of_wholeDigits {ds : List Nat} (h : wholeDigits s = .ok (ds, rest)) :
    ∃ cs, AllDigits cs ∧ (cs.head? = some '0' → cs = ['0']) ∧ ds = cs.map digitValue ∧ s = Source.ofChars cs ++ rest := by
  rw [wholeDigits] at h
  cases hdigits : digits s with
  | error f => rw [hdigits] at h; cases h
  | ok r =>
    obtain ⟨ds', rest'⟩ := r
    rw [hdigits] at h
    simp only [bind, Except.bind] at h
    split at h
    case h_1 => cases h
    case h_2 hzero =>
      cases h
      obtain ⟨cs, hall, rfl, hs⟩ := exists_allDigits_of_digits hdigits
      refine ⟨cs, hall, fun hfirst => ?_, rfl, hs⟩
      cases cs with
      | nil => cases hfirst
      | cons c cs =>
        obtain rfl : c = '0' := by simpa using hfirst
        cases cs with
        | nil => rfl
        | cons d cs => exact absurd rfl (hzero (digitValue d) (cs.map digitValue))

/-- What is read as a fraction is one that is spelled. -/
theorem exists_spelledFraction_of_fractionDigits {places : Option (List Nat)}
    (h : fractionDigits s = .ok (places, rest)) : ∃ t, SpelledFraction places t ∧ s = Source.ofChars t ++ rest := by
  unfold fractionDigits at h
  split at h
  case h_1 s' =>
    cases hdigits : digits s' with
    | error f => rw [hdigits] at h; cases h
    | ok r =>
      rw [hdigits] at h
      cases h
      obtain ⟨cs, hall, hvalue, rfl⟩ := exists_allDigits_of_digits hdigits
      exact ⟨'.' :: cs, hvalue ▸ .present hall, rfl⟩
  case h_2 =>
    cases h
    exact ⟨[], .absent, rfl⟩

/-- Behind the letter of an exponent there is what else a spelling of it has. -/
theorem exists_spelledExponent_of_letter {letter : Char} (hletter : letter = 'e' ∨ letter = 'E') {e : Option Int}
    (h : exponentDigits (.char letter :: s) = .ok (e, rest)) :
    ∃ t, SpelledExponent e (letter :: t) ∧ s = Source.ofChars t ++ rest := by
  have hsigned : ∀ (sign : Int) s', (s = .char '+' :: s' ∧ sign = 1 ∨ s = .char '-' :: s' ∧ sign = -1 ∨ s = s' ∧ sign = 1) →
      (digits s' >>= fun r => .ok (some (sign * natOfDigits r.1), r.2)) = Except.ok (e, rest) →
      ∃ t, SpelledExponent e (letter :: t) ∧ s = Source.ofChars t ++ rest := by
    intro sign s' hsign h
    cases hdigits : digits s' with
    | error f => rw [hdigits] at h; cases h
    | ok r =>
    rw [hdigits] at h
    cases h
    obtain ⟨cs, hall, hvalue, rfl⟩ := exists_allDigits_of_digits hdigits
    rw [hvalue, natOfDigits_map]
    rcases hsign with ⟨rfl, rfl⟩ | ⟨rfl, rfl⟩ | ⟨rfl, rfl⟩
    · exact ⟨'+' :: cs, by rw [one_mul]; exact .plus hletter hall, rfl⟩
    · exact ⟨'-' :: cs, by rw [neg_one_mul]; exact .minus hletter hall, rfl⟩
    · exact ⟨cs, by rw [one_mul]; exact .bare hletter hall, rfl⟩
  rcases hletter with rfl | rfl <;>
  · simp only [exponentDigits] at h
    split at h
    · exact hsigned 1 _ (.inl ⟨rfl, rfl⟩) h
    · exact hsigned (-1) _ (.inr (.inl ⟨rfl, rfl⟩)) h
    · exact hsigned 1 _ (.inr (.inr ⟨rfl, rfl⟩)) h

/-- What is read as an exponent is one that is spelled. -/
theorem exists_spelledExponent_of_exponentDigits {e : Option Int} (h : exponentDigits s = .ok (e, rest)) :
    ∃ t, SpelledExponent e t ∧ s = Source.ofChars t ++ rest := by
  have hletter : ∀ letter s', letter = 'e' ∨ letter = 'E' → s = .char letter :: s' →
      ∃ t, SpelledExponent e t ∧ s = Source.ofChars t ++ rest := by
    rintro letter s' hletter rfl
    obtain ⟨t, hspelled, rfl⟩ := exists_spelledExponent_of_letter hletter h
    exact ⟨letter :: t, hspelled, rfl⟩
  unfold exponentDigits at h
  split at h
  case h_1 s' => exact hletter 'e' s' (.inl rfl) rfl
  case h_2 s' => exact hletter 'E' s' (.inr rfl) rfl
  case h_3 =>
    cases h
    exact ⟨[], .absent, rfl⟩

/-- What is read as a numeral is one that is spelled. -/
theorem exists_spelledBare_of_numeral {negative : Bool} {x : Numeral} (h : numeral negative s = .ok (x, rest)) :
    x.negative = negative ∧ ∃ t, x.SpelledBare t ∧ s = Source.ofChars t ++ rest := by
  rw [numeral] at h
  cases hwhole : wholeDigits s with
  | error f => rw [hwhole] at h; cases h
  | ok r =>
    obtain ⟨ds, s₁⟩ := r
    rw [hwhole] at h
    simp only [bind, Except.bind] at h
    cases hfraction : fractionDigits s₁ with
    | error f => rw [hfraction] at h; cases h
    | ok r =>
      obtain ⟨places, s₂⟩ := r
      rw [hfraction] at h
      simp only at h
      cases hexponent : exponentDigits s₂ with
      | error f => rw [hexponent] at h; cases h
      | ok r =>
        obtain ⟨e, s₃⟩ := r
        rw [hexponent] at h
        cases h
        obtain ⟨whole, hall, hfirst, hvalue, rfl⟩ := exists_whole_of_wholeDigits hwhole
        obtain ⟨fraction, hspelled, rfl⟩ := exists_spelledFraction_of_fractionDigits hfraction
        obtain ⟨exponent, hspelled', rfl⟩ := exists_spelledExponent_of_exponentDigits hexponent
        exact ⟨rfl, _, .mk hall hfirst hvalue hspelled hspelled', by simp⟩

end

/-! ## Values of literals -/

namespace Numeral

/-- A significand is a number that takes in more digits. -/
theorem le_ofDigitChars (n : Nat) (cs : List Char) : n * 10 ^ cs.length ≤ Nat.ofDigitChars 10 cs n := by
  rw [Nat.ofDigitChars_eq_ofDigitChars_zero, Nat.mul_comm]
  exact Nat.le_add_right _ _

/-- A significand takes digits from the front. -/
theorem absorb_map (cs : List Char) (n : Nat) :
    ∃ taken dropped, cs = taken ++ dropped ∧
      absorb n (cs.map digitValue) = (Nat.ofDigitChars 10 taken n, dropped.map digitValue) := by
  induction cs generalizing n with
  | nil => exact ⟨[], [], rfl, rfl⟩
  | cons c cs ih =>
    rw [List.map_cons, absorb]
    split
    case isTrue =>
      obtain ⟨taken, dropped, rfl, habsorb⟩ := ih (n * 10 + digitValue c)
      refine ⟨c :: taken, dropped, rfl, ?_⟩
      rw [habsorb, Nat.ofDigitChars_cons, Nat.mul_comm 10]
      rfl
    case isFalse => exact ⟨[], c :: cs, rfl, rfl⟩

/-- More digits make a number no smaller. -/
theorem le_foldl (n : Nat) (ds : List Nat) : n ≤ ds.foldl (fun n d => n * 10 + d) n := by
  induction ds generalizing n with
  | nil => exact Nat.le_refl n
  | cons d ds ih =>
    have hnext := ih (n * 10 + d)
    rw [List.foldl_cons]
    omega

/-- It takes all of them when the number they stand for fits. -/
theorem absorb_of_lt {ds : List Nat} {n : Nat} (h : ds.foldl (fun n d => n * 10 + d) n < UInt64.size) :
    absorb n ds = (ds.foldl (fun n d => n * 10 + d) n, []) := by
  induction ds generalizing n with
  | nil => rfl
  | cons d ds ih =>
    rw [List.foldl_cons] at h ⊢
    rw [absorb, if_pos (Nat.lt_of_le_of_lt (le_foldl _ ds) h), ih h]

theorem absorb_map_of_lt {cs : List Char} {n : Nat} (h : Nat.ofDigitChars 10 cs n < UInt64.size) :
    absorb n (cs.map digitValue) = (Nat.ofDigitChars 10 cs n, []) := by
  rw [← foldl_digitValue] at h ⊢
  exact absorb_of_lt h

/-- A decimal up to the margin has a value. -/
theorem real?_isSome {n : Nat} {k : Int} (h : (n : ℚ) * 10 ^ k ≤ Magnitude.margin) (negative : Bool) :
    (real? negative n k).isSome := by
  rw [real?, Option.isSome_map]
  exact Magnitude.ofDecimal_isSome n h

end Numeral

/-- A literal whose whole part fits a significand has a value unless it exceeds the margin. Digits of its fraction that are
dropped only make it smaller. -/
theorem Literal.value?_isSome {l : Literal} (hwhole : natOf l.whole < UInt64.size) (h : l.toRat ≤ Magnitude.margin)
    (negative : Bool) : (l.numeral negative).value?.isSome := by
  unfold Numeral.value? numeral
  simp only [Numeral.absorb_map_of_lt hwhole]
  split
  case h_1 hfraction hexponent =>
    have hvalue : (natOf l.whole : ℚ) * 10 ^ (0 : Int) ≤ Magnitude.margin := by
      rw [Option.map_eq_none_iff] at hfraction
      rw [toRat, hfraction, hexponent] at h
      simpa using h
    rw [if_pos trivial, Numeral.ofInteger]
    split
    · rfl
    split
    · rfl
    · exact Numeral.real?_isSome hvalue true
  case h_2 =>
    obtain ⟨taken, dropped, hplaces, habsorb⟩ := Numeral.absorb_map (l.fraction.getD []) (natOf l.whole)
    have hfraction : (l.fraction.map (·.map digitValue)).getD [] = (l.fraction.getD []).map digitValue := by
      cases l.fraction <;> rfl
    have hcount : (taken ++ dropped).length - dropped.length = taken.length := by
      rw [List.length_append, Nat.add_sub_cancel]
    simp only [hfraction, habsorb, List.length_map]
    refine Numeral.real?_isSome (le_trans ?_ h) negative
    rw [toRat, hplaces, hcount]
    set e := l.exponent.getD 0
    set m := Nat.ofDigitChars 10 taken (natOf l.whole)
    have hdropped : (m * 10 ^ dropped.length : ℚ) ≤ natOf (l.whole ++ (taken ++ dropped)) := by
      have hsplit : natOf (l.whole ++ (taken ++ dropped)) = Nat.ofDigitChars 10 dropped m :=
        (Nat.ofDigitChars_append 0).trans (Nat.ofDigitChars_append _)
      rw [hsplit]
      exact_mod_cast Numeral.le_ofDigitChars m dropped
    calc (m : ℚ) * 10 ^ (((0 : Nat) : Int) - taken.length + e)
        = m * 10 ^ dropped.length * 10 ^ (e - (taken ++ dropped).length) := by
          rw [mul_assoc, ← zpow_natCast, ← zpow_add₀ (by norm_num)]
          congr 2
          rw [List.length_append]
          push_cast
          ring
      _ ≤ natOf (l.whole ++ (taken ++ dropped)) * 10 ^ (e - (taken ++ dropped).length) := by gcongr

end QueryGateway.Json
