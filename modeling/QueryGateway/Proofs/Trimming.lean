import Mathlib.Data.List.TakeWhile
import QueryGateway.Text.Blank

/-!
# What trimming leaves

A text is what trimming leaves of it with blanks around it (`Text.exists_padding`), and blanks around a text make no
difference to what is left (`Text.trim_padded`). So trimming once is enough (`Text.trim_trim`).
-/

namespace QueryGateway
namespace Text

/-! ## Characters -/

/-- Blanks at the end do not count at the end. -/
theorem dropEnd_append {back : List Char} (hback : ∀ c ∈ back, isBlank c = true) (cs : List Char) :
    dropEnd (cs ++ back) = dropEnd cs := by
  rw [dropEnd, List.reverse_append, List.dropWhile_append_of_pos, dropEnd]
  intro c hc
  exact hback c (List.mem_reverse.1 hc)

/-- Blanks in front do not count. -/
theorem trimChars_append_left {front : List Char} (hfront : ∀ c ∈ front, isBlank c = true) (cs : List Char) :
    trimChars (front ++ cs) = trimChars cs := by
  rw [trimChars, List.dropWhile_append_of_pos hfront, trimChars]

/-- Nor do blanks at the end. -/
theorem trimChars_append_right {back : List Char} (hback : ∀ c ∈ back, isBlank c = true) (cs : List Char) :
    trimChars (cs ++ back) = trimChars cs := by
  unfold trimChars
  rw [List.dropWhile_append]
  split
  case isTrue hnone =>
    rw [List.isEmpty_iff.1 hnone, List.dropWhile_eq_nil_iff.2 hback]
  case isFalse => exact dropEnd_append hback _

/-- Characters are what trimming leaves of them, between blanks. -/
theorem exists_padding_chars (cs : List Char) : ∃ front back, (∀ c ∈ front, isBlank c = true) ∧
    (∀ c ∈ back, isBlank c = true) ∧ cs = front ++ trimChars cs ++ back := by
  refine ⟨cs.takeWhile isBlank, ((cs.dropWhile isBlank).reverse.takeWhile isBlank).reverse, ?_, ?_, ?_⟩
  · intro c hc
    exact List.mem_takeWhile_imp hc
  · intro c hc
    exact List.mem_takeWhile_imp (List.mem_reverse.1 hc)
  · have hend : trimChars cs ++ ((cs.dropWhile isBlank).reverse.takeWhile isBlank).reverse = cs.dropWhile isBlank := by
      rw [trimChars, dropEnd, ← List.reverse_append, List.takeWhile_append_dropWhile, List.reverse_reverse]
    rw [List.append_assoc, hend, List.takeWhile_append_dropWhile]

/-! ## Texts -/

theorem allBlank_iff {s : String} : allBlank s = true ↔ ∀ c ∈ s.toList, isBlank c = true :=
  List.all_eq_true

/-- Trimming leaves nothing exactly when there is nothing but blanks. -/
theorem trim_eq_empty_iff (s : String) : trim s = "" ↔ allBlank s = true := by
  rw [trim, String.ofList_eq_empty_iff, allBlank_iff]
  obtain ⟨front, back, hfront, hback, hs⟩ := exists_padding_chars s.toList
  constructor
  · intro hnone
    rw [hnone, List.append_nil] at hs
    rw [hs]
    intro c hc
    exact (List.mem_append.1 hc).elim (hfront c) (hback c)
  · intro hall
    have hnil := trimChars_append_left hall []
    rwa [List.append_nil] at hnil

section
variable {a b : String}

/-- Blanks around a text do not count. -/
theorem trim_padded (ha : allBlank a = true) (hb : allBlank b = true) (s : String) : trim (a ++ s ++ b) = trim s := by
  rw [trim, String.toList_append, String.toList_append, trimChars_append_right (allBlank_iff.1 hb),
    trimChars_append_left (allBlank_iff.1 ha), trim]

/-- With blanks around it a text is blank or not as it was. -/
theorem allBlank_padded (ha : allBlank a = true) (hb : allBlank b = true) (s : String) :
    allBlank (a ++ s ++ b) = allBlank s := by
  rw [Bool.eq_iff_iff, ← trim_eq_empty_iff, ← trim_eq_empty_iff, trim_padded ha hb]

end

/-- A text is what trimming leaves of it, between blanks. -/
theorem exists_padding (s : String) : ∃ a b, allBlank a = true ∧ allBlank b = true ∧ s = a ++ trim s ++ b := by
  obtain ⟨front, back, hfront, hback, hs⟩ := exists_padding_chars s.toList
  refine ⟨.ofList front, .ofList back, ?_, ?_, ?_⟩
  · rw [allBlank_iff, String.toList_ofList]
    exact hfront
  · rw [allBlank_iff, String.toList_ofList]
    exact hback
  · rw [trim, ← String.ofList_append, ← String.ofList_append, ← hs, String.ofList_toList]

/-- What trimming leaves is trimmed. -/
theorem trim_trim (s : String) : trim (trim s) = trim s := by
  obtain ⟨a, b, ha, hb, hs⟩ := exists_padding s
  calc trim (trim s) = trim (a ++ trim s ++ b) := (trim_padded ha hb _).symm
    _ = trim s := by rw [← hs]

end Text
end QueryGateway
