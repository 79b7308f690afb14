import QueryGateway.Json.Reader

/-!
# Strings and how they are spelled

A string may be spelled in many ways: a character stands for itself, or is escaped by a letter, by the four digits of
its code, or by two such codes (`Spelling`). The reader takes any spelling of a string as that string and leaves what
stands behind the closing quote (`string_spelled`), and it takes nothing else (`exists_spelled_of_string`). What is
written is one of the spellings (`spelled_escaped`), so that it is read back (`string_quoted`).
-/

namespace QueryGateway.Json

open Text (Segment)

/-- A text as a reader consumes it. -/
def Source.ofChars (cs : List Char) : Source := cs.map .char

namespace Source

@[simp] theorem ofChars_nil : ofChars [] = [] := rfl

@[simp] theorem ofChars_cons (c : Char) (cs : List Char) : ofChars (c :: cs) = .char c :: ofChars cs := rfl

@[simp] theorem ofChars_append (cs cs' : List Char) : ofChars (cs ++ cs') = ofChars cs ++ ofChars cs' :=
  List.map_append

/-- A text is at least as many bytes long as it has characters. -/
theorem holds_ofChars {n : Nat} {cs : List Char} (h : n ≤ cs.length) (rest : Source) :
    holds n (ofChars cs ++ rest) = true := by
  induction cs generalizing n with
  | nil =>
    obtain rfl : n = 0 := by simpa using h
    rw [holds]
  | cons c cs ih =>
    cases n with
    | zero => rw [holds]
    | succ n =>
      have hsize : 0 < c.utf8Size := Char.utf8Size_pos c
      have hleft : n + 1 - c.utf8Size ≤ cs.length := by
        rw [List.length_cons] at h
        omega
      rw [ofChars_cons, List.cons_append, holds]
      exact ih hleft

end Source

/-! ## Spellings -/

/-- Four hexadecimal digits and the number they stand for. -/
inductive CodeUnit : List Char → Nat → Prop where
  | mk {a b c d : Char} {x y z w : Nat} : hexValue? (.char a) = some x → hexValue? (.char b) = some y →
      hexValue? (.char c) = some z → hexValue? (.char d) = some w →
      CodeUnit [a, b, c, d] (((x * 16 + y) * 16 + z) * 16 + w)

/-- How a character may be spelled inside a string. -/
inductive Spelling : Char → List Char → Prop where
  /-- It stands for itself. -/
  | plain {c : Char} : c ≠ '"' → c ≠ '\\' → 0x20 ≤ c.toNat → Spelling c [c]
  /-- A letter stands for it. -/
  | short {c letter : Char} : shortEscape? letter = some c → Spelling c ['\\', letter]
  /-- Its code stands for it. -/
  | code {ds : List Char} {n : Nat} : CodeUnit ds n → isLow n = false → isHigh n = false →
      Spelling (Char.ofNat n) ('\\' :: 'u' :: ds)
  /-- Both halves of its code stand for it. -/
  | pair {ds es : List Char} {high low : Nat} : CodeUnit ds high → CodeUnit es low → isHigh high = true →
      isLow low = true → Spelling (ofPair high low) ('\\' :: 'u' :: (ds ++ '\\' :: 'u' :: es))

/-- How a string may be spelled: character by character. -/
inductive Spelled : List Char → List Char → Prop where
  | nil : Spelled [] []
  | cons {c : Char} {cs t ts : List Char} : Spelling c t → Spelled cs ts → Spelled (c :: cs) (t ++ ts)

/-- The first half of a pair is not a second half. -/
theorem not_isLow_of_isHigh {n : Nat} (h : isHigh n = true) : isLow n = false := by
  simp only [isHigh, isLow, Bool.and_eq_true, decide_eq_true_eq, Bool.and_eq_false_iff, decide_eq_false_iff_not] at h ⊢
  omega

/-! ### What is written -/

/-- A hexadecimal digit has the value it was made for. -/
theorem hexValue?_hexDigit : ∀ n < 16, hexValue? (.char (hexDigit n)) = some n := by
  decide

/-- The four digits of a number below 256. -/
theorem codeUnit_hexDigit {n : Nat} (h : n < 256) : CodeUnit ['0', '0', hexDigit (n / 16), hexDigit (n % 16)] n := by
  have hunit := CodeUnit.mk (show hexValue? (.char '0') = some 0 by decide) (show hexValue? (.char '0') = some 0 by decide)
    (hexValue?_hexDigit (n / 16) (by omega)) (hexValue?_hexDigit (n % 16) (by omega))
  rwa [show ((0 * 16 + 0) * 16 + n / 16) * 16 + n % 16 = n by omega] at hunit

/-- What is written for a character is one of its spellings. -/
theorem spelling_escaped (c : Char) : Spelling c (escaped c) := by
  have hc : c = Char.ofNat c.toNat := (Char.ofNat_toNat c).symm
  unfold escaped
  split
  case isTrue h => exact .short (by rw [h]; decide)
  split
  case isTrue h => exact .short (by rw [h]; decide)
  split
  case isTrue h => exact .short (by rw [hc, h]; decide)
  split
  case isTrue h => exact .short (by rw [hc, h]; decide)
  split
  case isTrue h => exact .short (by rw [hc, h]; decide)
  split
  case isTrue h => exact .short (by rw [hc, h]; decide)
  split
  case isTrue h => exact .short (by rw [hc, h]; decide)
  split
  case isTrue h =>
    have hcode := Spelling.code (codeUnit_hexDigit (n := c.toNat) (by omega)) (by simp [isLow]; omega)
      (by simp [isHigh]; omega)
    rwa [Char.ofNat_toNat] at hcode
  case isFalse hquote hbackslash _ _ _ _ _ hplain => exact .plain hquote hbackslash (by omega)

/-- What is written for a string is one of its spellings. -/
theorem spelled_escaped (cs : List Char) : Spelled cs (cs.flatMap escaped) := by
  induction cs with
  | nil => exact .nil
  | cons c cs ih =>
    rw [List.flatMap_cons]
    exact .cons (spelling_escaped c) ih

/-! ## Spellings are read -/

section
variable (acc : List Char) (sound : Bool) (rest : Source)

/-- Four digits are read as the number they stand for. -/
theorem readQuoted_codeUnit {ds : List Char} {n : Nat} (h : CodeUnit ds n) (high : Option Nat) :
    readQuoted (.hex 0 4 high) acc sound (Source.ofChars ds ++ rest) =
      match hexDone n high with
      | .error f => .error f
      | .ok (place, cs) => readQuoted place (cs ++ acc) sound rest := by
  obtain ⟨ha, hb, hc, hd⟩ := h
  simp only [Source.ofChars_cons, Source.ofChars_nil, List.cons_append, List.nil_append]
  rw [readQuoted, ha]
  simp only
  rw [if_neg (by omega), readQuoted, hb]
  simp only
  rw [if_neg (by omega), readQuoted, hc]
  simp only
  rw [if_neg (by omega), readQuoted, hd]
  simp only
  rw [Nat.zero_mul, Nat.zero_add]
  exact if_pos (by omega)

/-- Four digits are enough for the reader to look at them. -/
theorem CodeUnit.holds {ds : List Char} {n : Nat} (h : CodeUnit ds n) : Source.holds 4 (Source.ofChars ds ++ rest) = true := by
  cases h
  exact Source.holds_ofChars (by simp) rest

/-- A code of four digits is read as what it stands for. -/
theorem readQuoted_code {ds : List Char} {n : Nat} (h : CodeUnit ds n) :
    readQuoted .plain acc sound (Source.ofChars ('\\' :: 'u' :: ds) ++ rest) =
      match hexDone n none with
      | .error f => .error f
      | .ok (place, cs) => readQuoted place (cs ++ acc) sound rest := by
  rw [Source.ofChars_cons, List.cons_append, readQuoted, if_neg (by decide), if_pos rfl, Source.ofChars_cons,
    List.cons_append, readQuoted]
  simp only [show shortEscape? 'u' = none by decide, h.holds, if_true]
  exact readQuoted_codeUnit acc sound rest h none

/-- A spelling is read as the character it stands for. -/
theorem readQuoted_spelling {c : Char} {t : List Char} (h : Spelling c t) :
    readQuoted .plain acc sound (Source.ofChars t ++ rest) = readQuoted .plain (c :: acc) sound rest := by
  cases h with
  | plain hquote hbackslash hplain =>
    rw [Source.ofChars_cons, Source.ofChars_nil, List.cons_append, List.nil_append, readQuoted, if_neg hquote,
      if_neg hbackslash, if_neg (by omega)]
  | short hletter =>
    rw [Source.ofChars_cons, List.cons_append, readQuoted, if_neg (by decide), if_pos rfl, Source.ofChars_cons,
      Source.ofChars_nil, List.cons_append, List.nil_append, readQuoted, hletter]
  | code hunit hlow hhigh =>
    rw [readQuoted_code acc sound rest hunit]
    simp [hexDone, hlow, hhigh]
  | pair hunit hunit' hhigh hlow =>
    have hnotLow : isLow _ = false := not_isLow_of_isHigh hhigh
    rw [← List.cons_append, ← List.cons_append, Source.ofChars_append, List.append_assoc,
      readQuoted_code acc sound _ hunit]
    simp only [hexDone, hnotLow, hhigh, if_false, if_true, Bool.false_eq_true, List.nil_append, Source.ofChars_cons,
      List.cons_append]
    rw [readQuoted, if_pos rfl, readQuoted, if_pos rfl, if_pos (hunit'.holds rest),
      readQuoted_codeUnit acc sound rest hunit']
    simp [hexDone, hlow]

/-- A spelled string and the closing quote are read as that string. -/
theorem readQuoted_spelled {cs t : List Char} (h : Spelled cs t) :
    readQuoted .plain acc true (Source.ofChars (t ++ ['"']) ++ rest) = .ok (String.ofList (acc.reverse ++ cs), rest) := by
  induction h generalizing acc with
  | nil => simp [readQuoted]
  | cons hspelling _ ih =>
    rw [List.append_assoc, Source.ofChars_append, List.append_assoc, readQuoted_spelling acc true _ hspelling, ih]
    simp

/-- What stands behind the opening quote of a spelled string is read as that string. -/
theorem string_spelled {s : String} {t : List Char} (h : Spelled s.toList t) :
    string (Source.ofChars (t ++ ['"']) ++ rest) = .ok (s, rest) := by
  rw [string, readQuoted_spelled [] rest h]
  simp

/-- What stands behind the opening quote of a written string is read as that string. -/
theorem string_quoted (s : String) :
    string (Source.ofChars (s.toList.flatMap escaped ++ ['"']) ++ rest) = .ok (s, rest) :=
  string_spelled rest (spelled_escaped s.toList)

end

/-! ## What is read is spelled -/

section
variable {acc : List Char} {sound : Bool} {s rest : Source} {str : String}

/-- A digit of a code that is read is a hexadecimal digit. -/
theorem exists_hexValue_of_readQuoted {value owed : Nat} {high : Option Nat} {r : String × Source}
    (h : readQuoted (.hex value owed high) acc sound s = .ok r) :
    ∃ c d s', s = .char c :: s' ∧ hexValue? (.char c) = some d := by
  cases s with
  | nil => rw [readQuoted_nil] at h; cases h
  | cons p s' =>
    rw [readQuoted] at h
    cases hp : hexValue? p with
    | none => rw [hp] at h; cases h
    | some d =>
      cases p with
      | char c => exact ⟨c, d, s', rfl, hp⟩
      | broken part => cases hp

/-- Where four digits are read there is a code. -/
theorem exists_codeUnit_of_readQuoted {high : Option Nat} {r : String × Source}
    (h : readQuoted (.hex 0 4 high) acc sound s = .ok r) : ∃ ds n s', CodeUnit ds n ∧ s = Source.ofChars ds ++ s' := by
  obtain ⟨a, x, s₁, rfl, ha⟩ := exists_hexValue_of_readQuoted h
  rw [readQuoted, ha] at h
  simp only at h
  rw [if_neg (by omega)] at h
  obtain ⟨b, y, s₂, rfl, hb⟩ := exists_hexValue_of_readQuoted h
  rw [readQuoted, hb] at h
  simp only at h
  rw [if_neg (by omega)] at h
  obtain ⟨c, z, s₃, rfl, hc⟩ := exists_hexValue_of_readQuoted h
  rw [readQuoted, hc] at h
  simp only at h
  rw [if_neg (by omega)] at h
  obtain ⟨d, w, s₄, rfl, hd⟩ := exists_hexValue_of_readQuoted h
  exact ⟨_, _, s₄, .mk ha hb hc hd, rfl⟩

/-- Behind the first half of a pair there is the second. -/
theorem exists_low_of_readQuoted {high : Nat} {r : String × Source}
    (h : readQuoted (.owesBackslash high) acc sound s = .ok r) :
    ∃ es low s', CodeUnit es low ∧ isLow low = true ∧ s = Source.ofChars ('\\' :: 'u' :: es) ++ s' ∧
      readQuoted .plain (ofPair high low :: acc) sound s' = .ok r := by
  cases s with
  | nil => rw [readQuoted_nil] at h; cases h
  | cons p s =>
    rw [readQuoted] at h
    split at h
    case isFalse => cases h
    case isTrue hbackslash =>
      subst hbackslash
      cases s with
      | nil => rw [readQuoted_nil] at h; cases h
      | cons p s =>
        rw [readQuoted] at h
        split at h
        case isFalse => cases h
        case isTrue hletter =>
          subst hletter
          split at h
          case isFalse => cases h
          case isTrue =>
            obtain ⟨es, low, s', hunit, rfl⟩ := exists_codeUnit_of_readQuoted h
            rw [readQuoted_codeUnit acc sound s' hunit, hexDone] at h
            cases hlow : isLow low with
            | false => rw [hlow] at h; cases h
            | true =>
              rw [hlow] at h
              exact ⟨es, low, s', hunit, hlow, rfl, h⟩

/-- Behind a backslash there is what else a spelling of some character has. -/
theorem exists_spelling_of_escape {r : String × Source} (h : readQuoted .escape acc sound s = .ok r) :
    ∃ c t s', Spelling c ('\\' :: t) ∧ s = Source.ofChars t ++ s' ∧ readQuoted .plain (c :: acc) sound s' = .ok r := by
  cases s with
  | nil => rw [readQuoted_nil] at h; cases h
  | cons p s =>
    cases p with
    | broken part => rw [readQuoted] at h; cases h
    | char letter =>
      rw [readQuoted] at h
      split at h
      case h_1 c hletter => exact ⟨c, [letter], s, .short hletter, rfl, h⟩
      case h_2 =>
        split at h
        case isFalse => cases h
        case isTrue hu =>
          subst hu
          split at h
          case isFalse => cases h
          case isTrue =>
            obtain ⟨ds, n, s', hunit, rfl⟩ := exists_codeUnit_of_readQuoted h
            rw [readQuoted_codeUnit acc sound s' hunit, hexDone] at h
            cases hlow : isLow n with
            | true => rw [hlow] at h; cases h
            | false =>
              cases hhigh : isHigh n with
              | false =>
                rw [hlow, hhigh] at h
                exact ⟨Char.ofNat n, 'u' :: ds, s', .code hunit hlow hhigh, rfl, h⟩
              | true =>
                rw [hlow, hhigh] at h
                obtain ⟨es, low, s'', hunit', hlow', rfl, hafter⟩ := exists_low_of_readQuoted h
                exact ⟨ofPair n low, 'u' :: (ds ++ '\\' :: 'u' :: es), s'', .pair hunit hunit' hhigh hlow', by simp,
                  hafter⟩

/-- What is read up to a closing quote has no ill-formed bytes and is a spelled string. A spelling takes several characters
at once, so that the induction is on the length of the text. -/
theorem exists_spelled_of_readQuoted (h : readQuoted .plain acc sound s = .ok (str, rest)) :
    sound = true ∧ ∃ cs t, Spelled cs t ∧ s = Source.ofChars (t ++ ['"']) ++ rest ∧
      str = String.ofList (acc.reverse ++ cs) := by
  induction hlength : s.length using Nat.strongRecOn generalizing acc sound s with
  | _ length ih =>
  subst hlength
  cases s with
  | nil => rw [readQuoted_nil] at h; cases h
  | cons p s =>
    cases p with
    | broken part =>
      rw [readQuoted] at h
      cases (ih s.length (Nat.lt_succ_self _) h rfl).1
    | char c =>
      rw [readQuoted] at h
      split at h
      case isTrue hquote =>
        subst hquote
        cases hsound : sound with
        | false => rw [hsound] at h; cases h
        | true =>
          rw [hsound] at h
          cases h
          exact ⟨rfl, [], [], .nil, rfl, by simp⟩
      case isFalse hquote =>
      split at h
      case isTrue hbackslash =>
        subst hbackslash
        obtain ⟨c, t, s', hspelling, rfl, hafter⟩ := exists_spelling_of_escape h
        have hshorter : s'.length < (Source.ofChars t ++ s').length + 1 := by
          rw [List.length_append]
          omega
        obtain ⟨hsound, cs, ts, hspelled, rfl, rfl⟩ := ih s'.length hshorter hafter rfl
        exact ⟨hsound, c :: cs, _, .cons hspelling hspelled, by simp, by simp⟩
      case isFalse hbackslash =>
      split at h
      case isTrue => cases h
      case isFalse hplain =>
        obtain ⟨hsound, cs, ts, hspelled, rfl, rfl⟩ := ih s.length (Nat.lt_succ_self _) h rfl
        exact ⟨hsound, c :: cs, _, .cons (.plain hquote hbackslash (by omega)) hspelled, by simp, by simp⟩

/-- Where a string is read, there is one that is spelled. -/
theorem exists_spelled_of_string (h : string s = .ok (str, rest)) :
    ∃ t, Spelled str.toList t ∧ s = Source.ofChars (t ++ ['"']) ++ rest := by
  obtain ⟨-, cs, t, hspelled, hs, rfl⟩ := exists_spelled_of_readQuoted h
  exact ⟨t, by simpa using hspelled, hs⟩

end

end QueryGateway.Json
