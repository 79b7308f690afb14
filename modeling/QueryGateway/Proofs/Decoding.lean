import QueryGateway.Files.Path
import Mathlib.Tactic.IntervalCases

/-!
# Encoded text reads as itself

The bytes of a text are cut into its characters again, one after the other (`segments_encode`), so the lossy reading
of an encoded text is that text (`lossy_encode`) and a path made from a text is shown as that text.
-/

namespace QueryGateway
namespace Text

/-! ## First bytes -/

/-- A byte below 128 is a character. -/
theorem lead_single {n : Nat} (h : n ≤ 0x7f) : lead (UInt8.ofNat n) = .whole (Char.ofNat n) := by
  have hbyte : (UInt8.ofNat n).toNat = n := by simp; omega
  rw [lead, if_pos (by rw [UInt8.lt_iff_toNat_lt, hbyte]; simp; omega), hbyte]

/-- The first of two bytes. -/
theorem lead_double {n : Nat} (h : 2 ≤ n) (h' : n < 32) :
    ∃ first, UInt8.ofNat (n % 0x20 + 0xc0) = first ∧
      lead first = .begun { part := [first], value := n, owed := 1 } := by
  refine ⟨_, rfl, ?_⟩
  interval_cases n <;> rfl

/-- The first of three bytes, and the range of the second. -/
theorem lead_triple {n : Nat} (h : n < 16) :
    ∃ first low high, UInt8.ofNat (n % 0x10 + 0xe0) = first ∧ lead first = .begun ⟨[first], n, 2, low, high⟩ ∧
      low.toNat = (if n = 0 then 0xA0 else 0x80) ∧ high.toNat = if n = 13 then 0x9F else 0xBF := by
  interval_cases n <;> exact ⟨_, _, _, rfl, rfl, rfl, rfl⟩

/-- The first of four bytes, and the range of the second. -/
theorem lead_quadruple {n : Nat} (h : n < 5) :
    ∃ first low high, UInt8.ofNat (n % 0x08 + 0xf0) = first ∧ lead first = .begun ⟨[first], n, 3, low, high⟩ ∧
      low.toNat = (if n = 0 then 0x90 else 0x80) ∧ high.toNat = if n = 4 then 0x8F else 0xBF := by
  interval_cases n <;> exact ⟨_, _, _, rfl, rfl, rfl, rfl⟩

/-! ## Characters -/

/-- A first byte begins a character. -/
theorem Cut.step_lead {b : UInt8} {p : Begun} (h : lead b = .begun p) (done : List Segment) :
    Cut.step ⟨done, none⟩ b = ⟨done, some p⟩ := by
  rw [Cut.step]
  simp only [Cut.start, h]

/-- A byte in the range of a character that has begun continues it, and the last one owed completes it. -/
theorem Cut.step_tail {part : Bytes} {value owed n : Nat} {low high : UInt8} (hlow : low.toNat ≤ n % 0x40 + 0x80)
    (hhigh : n % 0x40 + 0x80 ≤ high.toNat) (done : List Segment) :
    Cut.step ⟨done, some ⟨part, value, owed, low, high⟩⟩ (UInt8.ofNat (n % 0x40 + 0x80)) =
      if owed ≤ 1 then { done := .char (Char.ofNat (value * 64 + n % 0x40)) :: done }
      else ⟨done, some { part := UInt8.ofNat (n % 0x40 + 0x80) :: part, value := value * 64 + n % 0x40,
                         owed := owed - 1 }⟩ := by
  have hbyte : (UInt8.ofNat (n % 0x40 + 0x80)).toNat = n % 0x40 + 0x80 := by simp; omega
  rw [Cut.step]
  simp only [UInt8.le_iff_toNat_le, hbyte, hlow, hhigh, and_self, if_true, Nat.add_sub_cancel]

/-- The bytes of a character are cut as that character. -/
theorem foldl_step_char (c : Char) (done : List Segment) :
    (String.utf8EncodeChar c).foldl Cut.step ⟨done, none⟩ = ⟨.char c :: done, none⟩ := by
  have hvalid : c.val.toNat < 0xd800 ∨ 0xdfff < c.val.toNat ∧ c.val.toNat < 0x110000 := c.valid
  have hc : Char.ofNat c.val.toNat = c := Char.ofNat_toNat c
  have hrange : ∀ n, (0x80 : UInt8).toNat ≤ n % 0x40 + 0x80 ∧ n % 0x40 + 0x80 ≤ (0xBF : UInt8).toNat := by
    intro n
    simp only [UInt8.reduceToNat]
    omega
  unfold String.utf8EncodeChar
  simp only
  generalize c.val.toNat = v at hvalid hc
  split
  case isTrue h => simp only [List.foldl_cons, List.foldl_nil, Cut.step, Cut.start, lead_single h, hc]
  split
  case isTrue h h' =>
    obtain ⟨first, hfirst, hlead⟩ := lead_double (n := v / 64) (by omega) (by omega)
    simp only [hfirst, List.foldl_cons, List.foldl_nil]
    rw [Cut.step_lead hlead, Cut.step_tail (hrange v).1 (hrange v).2, if_pos (by omega)]
    rw [show v / 64 * 64 + v % 64 = v by omega, hc]
  split
  case isTrue h h' h'' =>
    obtain ⟨first, low, high, hfirst, hlead, hlow, hhigh⟩ := lead_triple (n := v / 4096) (by omega)
    simp only [hfirst, List.foldl_cons, List.foldl_nil]
    rw [Cut.step_lead hlead, Cut.step_tail (by rw [hlow]; split <;> omega) (by rw [hhigh]; split <;> omega),
      if_neg (by omega), Cut.step_tail (hrange v).1 (hrange v).2, if_pos (by omega)]
    rw [show (v / 4096 * 64 + v / 64 % 64) * 64 + v % 64 = v by omega, hc]
  case isFalse h h' h'' =>
    obtain ⟨first, low, high, hfirst, hlead, hlow, hhigh⟩ := lead_quadruple (n := v / 262144) (by omega)
    simp only [hfirst, List.foldl_cons, List.foldl_nil]
    rw [Cut.step_lead hlead, Cut.step_tail (by rw [hlow]; split <;> omega) (by rw [hhigh]; split <;> omega),
      if_neg (by omega), Cut.step_tail (hrange _).1 (hrange _).2, if_neg (by omega),
      Cut.step_tail (hrange v).1 (hrange v).2, if_pos (by omega)]
    rw [show ((v / 262144 * 64 + v / 4096 % 64) * 64 + v / 64 % 64) * 64 + v % 64 = v by omega, hc]

/-- The bytes of characters are cut as those characters. -/
theorem foldl_step_chars (cs : List Char) (done : List Segment) :
    (cs.flatMap String.utf8EncodeChar).foldl Cut.step ⟨done, none⟩ = ⟨(cs.map .char).reverse ++ done, none⟩ := by
  induction cs generalizing done with
  | nil => rfl
  | cons c cs ih => rw [List.flatMap_cons, List.foldl_append, foldl_step_char, ih]; simp

/-- The pieces of an encoded text are its characters. -/
theorem segments_encode (s : String) : segments (encode s) = pieces s := by
  rw [segments, encode, foldl_step_chars]
  simp [Cut.finish, pieces]

/-- The lossy reading of an encoded text is that text. -/
theorem lossy_encode (s : String) : lossy (encode s) = s := by
  rw [lossy, segments_encode, pieces, List.map_map]
  exact (congrArg String.ofList (List.map_id _)).trans (String.ofList_toList)

/-- The bytes of two texts in a row. -/
theorem encode_append (s s' : String) : encode (s ++ s') = encode s ++ encode s' := by
  simp [encode]

end Text

/-- A path made from a text is shown as that text. -/
theorem Path.display_ofString (s : String) : (Path.ofString s).display = s :=
  Text.lossy_encode s

end QueryGateway
