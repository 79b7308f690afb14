import QueryGateway.Engine.Bounds
import QueryGateway.Text.Fields

/-!
# A label tells its timeout to the millisecond

A label is a number, a blank and a unit (`Bounds.labelParts`), so it can be read back (`Bounds.labelMilliseconds`). What is
read from the label of a timeout is the whole milliseconds of it, and so no two timeouts have one label unless they are the
same to the millisecond (`Bounds.timeoutLabel_identifies`).
-/

namespace QueryGateway

/-- A text in which a character stands once is cut there. -/
theorem Text.splitOnce_append {sep : Char} {front back : List Char} (hfront : sep ∉ front) (hback : sep ∉ back) :
    splitOnce sep (front ++ sep :: back) = some (front, back) := by
  have hbefore : ∀ c ∈ front, decide (c ≠ sep) = true := by
    intro c hc
    have hne : c ≠ sep := by
      rintro rfl
      exact hfront hc
    exact decide_eq_true hne
  rw [splitOnce, List.dropWhile_append_of_pos hbefore, List.takeWhile_append_of_pos hbefore]
  simp [hback]

namespace Bounds

/-! ## Reading a label -/

/-- The units of a label, each with its milliseconds. -/
def labelUnits : List (String × Nat) :=
  [("ms", 1), ("second", 1000), ("seconds", 1000)]

/-- The number, in decimal digits, and the unit of a label. -/
def labelParts (label : String) : Option (Nat × String) := do
  let (number, unit) ← Text.splitOnce ' ' label.toList
  if number ≠ [] ∧ number.all Char.isDigit then some (Nat.ofDigitChars 10 number 0, String.ofList unit) else none

/-- The milliseconds that a label says. -/
def labelMilliseconds (label : String) : Option Nat := do
  let (n, unit) ← labelParts label
  let each ← labelUnits.lookup unit
  some (n * each)

/-- A label says its number as often as its unit has milliseconds. -/
theorem labelMilliseconds_of_labelParts {label unit : String} {n each : Nat} (hparts : labelParts label = some (n, unit))
    (hunit : labelUnits.lookup unit = some each) : labelMilliseconds label = some (n * each) := by
  simp only [labelMilliseconds, hparts, hunit, Option.bind_eq_bind, Option.bind_some]

/-- A number, a blank and a unit are the parts of a label. -/
theorem labelParts_append (n : Nat) (tail : String) {unit : String} (htail : tail.toList = ' ' :: unit.toList)
    (hunit : ' ' ∉ unit.toList) : labelParts (Nat.repr n ++ tail) = some (n, unit) := by
  have hdigit : ∀ c ∈ Nat.toDigits 10 n, c.isDigit = true := fun c =>
    Nat.isDigit_of_mem_toDigits (by decide) (by decide)
  have hnumber : ' ' ∉ Nat.toDigits 10 n := fun hblank => absurd (hdigit _ hblank) (by decide)
  have hcut : Text.splitOnce ' ' (Nat.repr n ++ tail).toList = some (Nat.toDigits 10 n, unit.toList) := by
    rw [String.toList_append, htail, Nat.toList_repr]
    exact Text.splitOnce_append hnumber hunit
  have hread : Nat.toDigits 10 n ≠ [] ∧ (Nat.toDigits 10 n).all Char.isDigit = true :=
    ⟨Nat.toDigits_ne_nil, List.all_eq_true.2 hdigit⟩
  simp only [labelParts, hcut, Option.bind_eq_bind, Option.bind_some, if_pos hread, Nat.ofDigitChars_ten_toDigits,
    String.ofList_toList]

/-! ## The label of a timeout -/

/-- The ways in which a timeout is put into words: one second, other whole seconds, and milliseconds. -/
theorem labelParts_timeoutLabel (b : Bounds) :
    (b.timeout.milliseconds = 1000 ∧ labelParts b.timeoutLabel = some (1, "second")) ∨
      (b.timeout.milliseconds ≠ 1000 ∧ 1000 ∣ b.timeout.milliseconds ∧
        labelParts b.timeoutLabel = some (b.timeout.milliseconds / 1000, "seconds")) ∨
      (¬1000 ∣ b.timeout.milliseconds ∧ labelParts b.timeoutLabel = some (b.timeout.milliseconds, "ms")) := by
  unfold timeoutLabel
  dsimp only
  split
  case isTrue hsecond => exact .inl ⟨hsecond, labelParts_append 1 " second" (by decide) (by decide)⟩
  case isFalse hother =>
    split
    case isTrue hmod =>
      exact .inr (.inl ⟨hother, Nat.dvd_of_mod_eq_zero hmod, labelParts_append _ " seconds" (by decide) (by decide)⟩)
    case isFalse hmod =>
      have hdvd : ¬1000 ∣ b.timeout.milliseconds := fun h => hmod (Nat.mod_eq_zero_of_dvd h)
      exact .inr (.inr ⟨hdvd, labelParts_append _ " ms" (by decide) (by decide)⟩)

/-- The label of a timeout is read back as the whole milliseconds of it. -/
theorem labelMilliseconds_timeoutLabel (b : Bounds) :
    labelMilliseconds b.timeoutLabel = some b.timeout.milliseconds := by
  rcases b.labelParts_timeoutLabel with ⟨hone, hparts⟩ | ⟨-, hdvd, hparts⟩ | ⟨-, hparts⟩
  · rw [labelMilliseconds_of_labelParts hparts rfl, hone]
  · rw [labelMilliseconds_of_labelParts hparts rfl, Nat.div_mul_cancel hdvd]
  · rw [labelMilliseconds_of_labelParts hparts rfl, Nat.mul_one]

/-- Two timeouts have one label exactly when they are the same to the millisecond, and the label is read back as these
milliseconds. It has the unit for one second for a thousand of them only, and milliseconds for its unit when they are no
whole seconds and then only. -/
theorem timeoutLabel_identifies (b : Bounds) :
    (∀ b' : Bounds, b.timeoutLabel = b'.timeoutLabel ↔ b.timeout.milliseconds = b'.timeout.milliseconds) ∧
      labelMilliseconds b.timeoutLabel = some b.timeout.milliseconds ∧
      (b.timeoutLabel = "1 second" ↔ b.timeout.milliseconds = 1000) ∧
      ∃ n unit, labelParts b.timeoutLabel = some (n, unit) ∧
        (unit = "second" ↔ b.timeout.milliseconds = 1000) ∧ (unit = "ms" ↔ ¬1000 ∣ b.timeout.milliseconds) := by
  refine ⟨fun b' => ⟨fun h => ?_, fun h => ?_⟩, b.labelMilliseconds_timeoutLabel, ⟨fun h => ?_, fun h => ?_⟩, ?_⟩
  · have hread := congrArg labelMilliseconds h
    rw [labelMilliseconds_timeoutLabel, labelMilliseconds_timeoutLabel] at hread
    exact Option.some.inj hread
  · unfold timeoutLabel
    rw [h]
  · have hread := b.labelMilliseconds_timeoutLabel
    have hsecond : labelParts "1 second" = some (1, "second") :=
      labelParts_append 1 " second" (by decide) (by decide)
    rw [h, labelMilliseconds_of_labelParts hsecond rfl] at hread
    exact (Option.some.inj hread).symm
  · unfold timeoutLabel
    exact if_pos h
  · rcases b.labelParts_timeoutLabel with ⟨hone, hparts⟩ | ⟨hother, hdvd, hparts⟩ | ⟨hdvd, hparts⟩
    · refine ⟨_, _, hparts, iff_of_true rfl hone, iff_of_false (by decide) ?_⟩
      rw [hone]
      decide
    · exact ⟨_, _, hparts, iff_of_false (by decide) hother, iff_of_false (by decide) (not_not_intro hdvd)⟩
    · refine ⟨_, _, hparts, iff_of_false (by decide) fun hone => hdvd ?_, iff_of_true rfl hdvd⟩
      exact hone ▸ Nat.dvd_refl 1000

/-- Labels that look alike: of a second, of ten, of a millisecond more, and of less than a millisecond. -/
example : [1000, 10000, 1001, 0].map (fun n => timeoutLabel ⟨.ofMilliseconds n, 1, .abort⟩) =
    ["1 second", "10 seconds", "1001 ms", "0 seconds"] := by
  decide

end Bounds
end QueryGateway
