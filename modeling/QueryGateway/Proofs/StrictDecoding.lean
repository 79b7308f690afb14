import QueryGateway.Proofs.Decoding

/-!
# Byte strings come back from their pieces

Cutting a byte string into characters and ill-formed parts loses nothing: the pieces hold all of its bytes in their
order (`flatMap_segments`). So the strict reading reads a text from its bytes and from no other bytes
(`decode?_eq_some_iff`).
-/

namespace QueryGateway
namespace Text

/-! ## Characters in their ranges -/

/-- A character that is made from its number has that number. -/
theorem val_ofNat {v : Nat} (h : v.isValidChar) : (Char.ofNat v).val.toNat = v := by
  rw [Char.ofNat, dif_pos h]
  rfl

/-- A byte below 128 is the only one of its character. -/
theorem encode_single {x : UInt8} (hx : x.toNat < 0x80) : String.utf8EncodeChar (Char.ofNat x.toNat) = [x] := by
  have hvalid : x.toNat.isValidChar := .inl (by omega)
  simp only [String.utf8EncodeChar, val_ofNat hvalid]
  rw [if_pos (by omega), UInt8.ofNat_toNat]

/-- Two bytes in their ranges are those of a character. -/
theorem encode_double {x y : UInt8} (hx : 0xC2 ≤ x.toNat ∧ x.toNat < 0xE0) (hy : 0x80 ≤ y.toNat ∧ y.toNat ≤ 0xBF) :
    String.utf8EncodeChar (Char.ofNat ((x.toNat - 0xC0) * 64 + (y.toNat - 0x80))) = [x, y] := by
  generalize hv : (x.toNat - 0xC0) * 64 + (y.toNat - 0x80) = v
  have hvalid : v.isValidChar := .inl (by omega)
  simp only [String.utf8EncodeChar, val_ofNat hvalid]
  rw [if_neg (by omega), if_pos (by omega)]
  simp only [List.cons.injEq, ← UInt8.toNat_inj, UInt8.toNat_ofNat', and_true]
  constructor <;> omega

/-- Three bytes in their ranges are those of a character. -/
theorem encode_triple {x y z : UInt8} (hx : 0xE0 ≤ x.toNat ∧ x.toNat < 0xF0) (hy : 0x80 ≤ y.toNat ∧ y.toNat ≤ 0xBF)
    (hlow : x.toNat = 0xE0 → 0xA0 ≤ y.toNat) (hhigh : x.toNat = 0xED → y.toNat ≤ 0x9F)
    (hz : 0x80 ≤ z.toNat ∧ z.toNat ≤ 0xBF) :
    String.utf8EncodeChar (Char.ofNat (((x.toNat - 0xE0) * 64 + (y.toNat - 0x80)) * 64 + (z.toNat - 0x80))) =
      [x, y, z] := by
  generalize hv : ((x.toNat - 0xE0) * 64 + (y.toNat - 0x80)) * 64 + (z.toNat - 0x80) = v
  have hvalid : v.isValidChar := by
    unfold Nat.isValidChar
    omega
  simp only [String.utf8EncodeChar, val_ofNat hvalid]
  rw [if_neg (by omega), if_neg (by omega), if_pos (by omega)]
  simp only [List.cons.injEq, ← UInt8.toNat_inj, UInt8.toNat_ofNat', and_true]
  refine ⟨?_, ?_, ?_⟩ <;> omega

/-- Four bytes in their ranges are those of a character. -/
theorem encode_quadruple {w x y z : UInt8} (hw : 0xF0 ≤ w.toNat ∧ w.toNat ≤ 0xF4)
    (hx : 0x80 ≤ x.toNat ∧ x.toNat ≤ 0xBF) (hlow : w.toNat = 0xF0 → 0x90 ≤ x.toNat)
    (hhigh : w.toNat = 0xF4 → x.toNat ≤ 0x8F) (hy : 0x80 ≤ y.toNat ∧ y.toNat ≤ 0xBF)
    (hz : 0x80 ≤ z.toNat ∧ z.toNat ≤ 0xBF) :
    String.utf8EncodeChar (Char.ofNat ((((w.toNat - 0xF0) * 64 + (x.toNat - 0x80)) * 64 + (y.toNat - 0x80)) * 64 +
      (z.toNat - 0x80))) = [w, x, y, z] := by
  generalize hv : (((w.toNat - 0xF0) * 64 + (x.toNat - 0x80)) * 64 + (y.toNat - 0x80)) * 64 + (z.toNat - 0x80) = v
  have hvalid : v.isValidChar := by
    unfold Nat.isValidChar
    omega
  simp only [String.utf8EncodeChar, val_ofNat hvalid]
  rw [if_neg (by omega), if_neg (by omega), if_neg (by omega)]
  simp only [List.cons.injEq, ← UInt8.toNat_inj, UInt8.toNat_ofNat', and_true]
  refine ⟨?_, ?_, ?_, ?_⟩ <;> omega

/-! ## Characters that have begun -/

/-- These bytes finish a character: as many as it owes, the first of them between two bounds and each other one in the
range of all later bytes. -/
def Finish : Nat → UInt8 → UInt8 → Bytes → Prop
  | 0, _, _, tail => tail = []
  | owed + 1, low, high, tail => ∃ b rest, tail = b :: rest ∧ low ≤ b ∧ b ≤ high ∧ Finish owed 0x80 0xBF rest

/-- A character that has begun owes something, and whatever finishes it, its bytes are those of the character that they
come to. -/
def Begun.Sound (p : Begun) : Prop :=
  0 < p.owed ∧ ∀ tail, Finish p.owed p.low p.high tail →
    String.utf8EncodeChar (Char.ofNat (tail.foldl (fun v b => v * 64 + (b.toNat - 0x80)) p.value)) =
      p.part.reverse ++ tail

/-- A later byte of a character lies in its range. -/
theorem toNat_mem {low high b : UInt8} (hlow : low ≤ b) (hhigh : b ≤ high) :
    low.toNat ≤ b.toNat ∧ b.toNat ≤ high.toNat :=
  ⟨UInt8.le_iff_toNat_le.1 hlow, UInt8.le_iff_toNat_le.1 hhigh⟩

/-- The first of two bytes begins a character. -/
theorem sound_double {b : UInt8} (hb : 0xC2 ≤ b.toNat ∧ b.toNat < 0xE0) :
    Begun.Sound { part := [b], value := b.toNat - 0xC0, owed := 1 } := by
  refine ⟨Nat.zero_lt_one, ?_⟩
  rintro tail ⟨y, rest, rfl, hlow, hhigh, rfl⟩
  exact encode_double hb (toNat_mem hlow hhigh)

/-- The first of three bytes begins a character, if the range of the second leaves out what has a shorter form and what
is no character. -/
theorem sound_triple {b low high : UInt8} {value : Nat} (hb : 0xE0 ≤ b.toNat ∧ b.toNat < 0xF0)
    (hvalue : value = b.toNat - 0xE0) (hlow : (if b.toNat = 0xE0 then 0xA0 else 0x80) ≤ low.toNat)
    (hhigh : high.toNat ≤ if b.toNat = 0xED then 0x9F else 0xBF) :
    Begun.Sound { part := [b], value := value, owed := 2, low := low, high := high } := by
  refine ⟨Nat.zero_lt_two, ?_⟩
  rintro tail ⟨y, rest, rfl, hy, hy', z, rest, rfl, hz, hz', rfl⟩
  have hrange : low.toNat ≤ y.toNat ∧ y.toNat ≤ high.toNat := toNat_mem hy hy'
  rw [hvalue]
  split at hlow <;> split at hhigh <;>
    exact encode_triple hb (by omega) (by omega) (by omega) (toNat_mem hz hz')

/-- The first of four bytes begins a character, if the range of the second leaves out what has a shorter form and what
is past the last character. -/
theorem sound_quadruple {b low high : UInt8} {value : Nat} (hb : 0xF0 ≤ b.toNat ∧ b.toNat ≤ 0xF4)
    (hvalue : value = b.toNat - 0xF0) (hlow : (if b.toNat = 0xF0 then 0x90 else 0x80) ≤ low.toNat)
    (hhigh : high.toNat ≤ if b.toNat = 0xF4 then 0x8F else 0xBF) :
    Begun.Sound { part := [b], value := value, owed := 3, low := low, high := high } := by
  refine ⟨Nat.zero_lt_succ 2, ?_⟩
  rintro tail ⟨x, rest, rfl, hx, hx', y, rest, rfl, hy, hy', z, rest, rfl, hz, hz', rfl⟩
  have hrange : low.toNat ≤ x.toNat ∧ x.toNat ≤ high.toNat := toNat_mem hx hx'
  rw [hvalue]
  split at hlow <;> split at hhigh <;>
    exact encode_quadruple hb (by omega) (by omega) (by omega) (toNat_mem hy hy') (toNat_mem hz hz')

/-- What a first byte announces is right: a whole character has no other byte, and one that begins begins soundly. -/
def Lead.Right (b : UInt8) : Lead → Prop
  | whole c => String.utf8EncodeChar c = [b]
  | begun p => p.part = [b] ∧ p.Sound
  | stray => True

/-- Every first byte announces what is right. There is a case for each shape of a first byte, and four of them narrow the
range of the second byte. -/
theorem right_lead (b : UInt8) : (lead b).Right b := by
  unfold lead
  simp only [UInt8.lt_iff_toNat_lt, ← UInt8.toNat_inj, UInt8.reduceToNat]
  split
  · exact encode_single ‹_›
  split
  · trivial
  split
  · exact ⟨rfl, sound_double (by omega)⟩
  split
  · exact ⟨rfl, sound_triple (by omega) (by omega) (by rw [if_pos ‹_›]; decide) (by rw [if_neg (by omega)]; decide)⟩
  split
  · exact ⟨rfl, sound_triple (by omega) (by omega) (by rw [if_neg (by omega)]; decide) (by rw [if_pos ‹_›]; decide)⟩
  split
  · exact ⟨rfl, sound_triple (by omega) rfl (by rw [if_neg (by omega)]; decide) (by rw [if_neg (by omega)]; decide)⟩
  split
  · exact ⟨rfl, sound_quadruple (by omega) (by omega) (by rw [if_pos ‹_›]; decide) (by rw [if_neg (by omega)]; decide)⟩
  split
  · exact ⟨rfl, sound_quadruple (by omega) rfl (by rw [if_neg (by omega)]; decide) (by rw [if_neg (by omega)]; decide)⟩
  split
  · exact ⟨rfl, sound_quadruple (by omega) (by omega) (by rw [if_neg (by omega)]; decide) (by rw [if_pos ‹_›]; decide)⟩
  · trivial

/-! ## The cut -/

/-- The bytes of a piece. -/
def Segment.bytes : Segment → Bytes
  | char c => String.utf8EncodeChar c
  | broken part => part

namespace Cut

/-- The bytes that a cut has taken. -/
def bytes (cut : Cut) : Bytes :=
  cut.done.reverse.flatMap Segment.bytes ++ (cut.begun.map fun p => p.part.reverse).getD []

/-- A cut in which a character has begun has begun it soundly. -/
def Sound (cut : Cut) : Prop :=
  ∀ p, cut.begun = some p → p.Sound

/-- A byte that is taken when no character has begun is kept. -/
theorem start_spec (done : List Segment) (b : UInt8) :
    (start done b).Sound ∧ (start done b).bytes = done.reverse.flatMap Segment.bytes ++ [b] := by
  have hright := right_lead b
  unfold start
  cases hlead : lead b with
  | whole c =>
    rw [hlead, Lead.Right] at hright
    refine ⟨?_, by simp [bytes, Segment.bytes, hright]⟩
    rintro p ⟨⟩
  | begun p =>
    rw [hlead] at hright
    obtain ⟨hpart, hsound⟩ := hright
    refine ⟨?_, by simp [bytes, hpart]⟩
    rintro _ ⟨⟩
    exact hsound
  | stray =>
    refine ⟨?_, by simp [bytes, Segment.bytes]⟩
    rintro p ⟨⟩

/-- Every byte is kept. One that is all that was owed finishes the character that soundness speaks of; behind any other,
what finishes the rest finishes the whole with this byte in front. -/
theorem step_spec {cut : Cut} (h : cut.Sound) (b : UInt8) :
    (cut.step b).Sound ∧ (cut.step b).bytes = cut.bytes ++ [b] := by
  obtain ⟨done, begun⟩ := cut
  cases begun with
  | none =>
    obtain ⟨hsound, hbytes⟩ := start_spec done b
    refine ⟨hsound, hbytes.trans ?_⟩
    simp [bytes]
  | some p =>
    obtain ⟨howed, hfinish⟩ := h p rfl
    obtain ⟨part, value, owed, low, high⟩ := p
    simp only [step]
    split
    next hrange =>
      split
      next hlast =>
        have hone : owed = 1 := by
          simp only at howed hlast
          omega
        subst hone
        have hchar := hfinish [b] ⟨b, [], rfl, hrange.1, hrange.2, rfl⟩
        simp only [List.foldl_cons, List.foldl_nil] at hchar
        refine ⟨?_, by simp [bytes, Segment.bytes, hchar]⟩
        rintro p ⟨⟩
      next hmore =>
        refine ⟨?_, by simp [bytes]⟩
        rintro _ ⟨⟩
        obtain ⟨n, rfl⟩ : ∃ n, owed = n + 1 := ⟨owed - 1, by omega⟩
        refine ⟨by simp only at hmore ⊢; omega, fun tail htail => ?_⟩
        have hchar := hfinish (b :: tail) ⟨b, tail, rfl, hrange.1, hrange.2, htail⟩
        simpa using hchar
    next =>
      obtain ⟨hsound, hbytes⟩ := start_spec (.broken part.reverse :: done) b
      refine ⟨hsound, hbytes.trans ?_⟩
      simp [bytes, Segment.bytes]

/-- All bytes are kept. -/
theorem foldl_step_spec (bs : Bytes) {cut : Cut} (h : cut.Sound) : (bs.foldl step cut).bytes = cut.bytes ++ bs := by
  induction bs generalizing cut with
  | nil => simp
  | cons b bs ih =>
    obtain ⟨hsound, hbytes⟩ := step_spec h b
    rw [List.foldl_cons, ih hsound, hbytes, List.append_assoc, List.singleton_append]

/-- The pieces at the end are those of all bytes that were taken. -/
theorem flatMap_finish (cut : Cut) : cut.finish.flatMap Segment.bytes = cut.bytes := by
  obtain ⟨done, begun⟩ := cut
  cases begun <;> simp [finish, bytes, Segment.bytes]

end Cut

/-- The pieces of a byte string are all that it is made of. -/
theorem flatMap_segments (bs : Bytes) : (segments bs).flatMap Segment.bytes = bs := by
  have hstart : Cut.Sound {} := by
    rintro p ⟨⟩
  rw [segments, Cut.flatMap_finish, Cut.foldl_step_spec bs hstart]
  rfl

/-! ## The strict reading -/

/-- Pieces are all characters exactly when they are those of a text. -/
theorem mapM_char?_eq_some_iff {pieces : List Segment} {cs : List Char} :
    pieces.mapM Segment.char? = some cs ↔ pieces = cs.map .char := by
  induction pieces generalizing cs with
  | nil => cases cs <;> simp
  | cons piece pieces ih =>
    rw [List.mapM_cons]
    cases piece with
    | broken part => cases cs <;> simp [Segment.char?]
    | char c =>
      cases cs with
      | nil => simp [Segment.char?, Option.bind_eq_some_iff]
      | cons d ds => simp [Segment.char?, Option.bind_eq_some_iff, ih, and_comm]

/-- A byte string is well-formed exactly when it is that of a text. -/
theorem decode?_eq_some_iff {bs : Bytes} {s : String} : decode? bs = some s ↔ bs = encode s := by
  constructor
  · intro h
    obtain ⟨cs, hcs, rfl⟩ := Option.map_eq_some_iff.1 h
    rw [← flatMap_segments bs, mapM_char?_eq_some_iff.1 hcs, List.flatMap_map, encode, String.toList_ofList]
    rfl
  · rintro rfl
    rw [decode?, segments_encode, mapM_char?_eq_some_iff.2 (show pieces s = s.toList.map .char from rfl),
      Option.map_some, String.ofList_toList]

/-- Texts with the same bytes are the same. -/
theorem encode_injective : Function.Injective encode := by
  intro s s' h
  have hread : decode? (encode s) = some s' := decode?_eq_some_iff.2 h
  rw [decode?_eq_some_iff.2 rfl] at hread
  exact Option.some.inj hread

end Text
end QueryGateway
