import QueryGateway.Proofs.Handover
import QueryGateway.Proofs.StrictDecoding

/-!
# Text cut at a limit

An engine prints text, and the limit may cut it anywhere, also inside a character. The first bytes of a character begin
it and do nothing else (`Text.Cut.foldl_step_part`), so they are shown as one replacement character behind the whole
characters in front of them (`Text.lossy_take`). What is reported of each channel is therefore the longest part of the
text that was kept whole, followed by one replacement character exactly where a character was cut
(`Call.report_cuts`).
-/

namespace QueryGateway
namespace Text

/-! ## A character that has only begun -/

namespace Cut

/-- A byte adds pieces and takes none away. -/
theorem done_suffix_start (done : List Segment) (b : UInt8) : done <:+ (start done b).done := by
  unfold start
  split
  · exact List.suffix_cons _ _
  · exact List.suffix_rfl
  · exact List.suffix_cons _ _

theorem done_suffix_step (cut : Cut) (b : UInt8) : cut.done <:+ (cut.step b).done := by
  unfold step
  split
  · exact done_suffix_start _ b
  · split
    · dsimp only
      split
      · exact List.suffix_cons _ _
      · exact List.suffix_rfl
    · exact (List.suffix_cons _ _).trans (done_suffix_start _ b)

theorem done_suffix_foldl (bs : Bytes) (cut : Cut) : cut.done <:+ (bs.foldl step cut).done := by
  induction bs generalizing cut with
  | nil => exact List.suffix_rfl
  | cons b bs ih => exact (done_suffix_step cut b).trans (ih (cut.step b))

/-- The first bytes of a character, if not all of them, begin it and do nothing else: the pieces that are done lie between
those before the character and those after it, and the character is not among them yet. -/
theorem foldl_step_part {c : Char} {part rest : Bytes} (hc : String.utf8EncodeChar c = part ++ rest)
    (hpart : part ≠ []) (hrest : rest ≠ []) (done : List Segment) :
    ∃ p, part.foldl step ⟨done, none⟩ = ⟨done, some p⟩ ∧ p.part.reverse = part := by
  have hwhole := foldl_step_char c done
  rw [hc, List.foldl_append] at hwhole
  have hsound : Sound ⟨done, none⟩ := by
    rintro p ⟨⟩
  have hbytes : (part.foldl step ⟨done, none⟩).bytes = done.reverse.flatMap Segment.bytes ++ part := by
    rw [foldl_step_spec part hsound]
    simp [bytes]
  have hbefore := done_suffix_foldl part ⟨done, none⟩
  have hafter := done_suffix_foldl rest (part.foldl step ⟨done, none⟩)
  rw [hwhole] at hafter
  generalize part.foldl step ⟨done, none⟩ = mid at hbytes hbefore hafter
  obtain ⟨pieces, begun⟩ := mid
  rcases List.suffix_cons_iff.1 hafter with hall | hnone
  · obtain rfl : pieces = .char c :: done := hall
    simp [bytes, Segment.bytes, hc, hrest] at hbytes
  · obtain rfl : pieces = done := hnone.eq_of_length_le hbefore.length_le
    cases begun with
    | none => simp [bytes, hpart] at hbytes
    | some p => exact ⟨p, rfl, by simpa [bytes] using hbytes⟩

end Cut

/-- Whole characters and a part of one more are shown as these characters and one replacement character. -/
theorem lossy_part {c : Char} {part rest : Bytes} (hc : String.utf8EncodeChar c = part ++ rest) (hpart : part ≠ [])
    (hrest : rest ≠ []) (p : String) : lossy (encode p ++ part) = p.push replacement := by
  obtain ⟨begun, hbegun, -⟩ := Cut.foldl_step_part hc hpart hrest ((p.toList.map .char).reverse ++ [])
  rw [lossy, segments, List.foldl_append, encode, foldl_step_chars, hbegun]
  apply String.toList_injective
  simp [Cut.finish, Segment.shown, Function.comp_def]

/-! ## Where a text is cut -/

/-- So many bytes end between two characters of a text, or at one of its ends. -/
def Boundary (s : String) (n : Nat) : Prop :=
  ∃ p q, s = p ++ q ∧ (encode p).length = n

/-- A text has as many boundaries as first parts. -/
theorem boundary_iff (s : String) (n : Nat) : Boundary s n ↔
    ∃ k < s.toList.length + 1, ((s.toList.take k).flatMap String.utf8EncodeChar).length = n := by
  constructor
  · rintro ⟨p, q, rfl, hn⟩
    refine ⟨p.toList.length, ?_, ?_⟩
    · rw [String.toList_append, List.length_append]
      omega
    · rw [String.toList_append, List.take_left]
      exact hn
  · rintro ⟨k, -, hn⟩
    refine ⟨String.ofList (s.toList.take k), String.ofList (s.toList.drop k), String.toList_injective ?_, ?_⟩
    · simp
    · rw [encode, String.toList_ofList]
      exact hn

instance (s : String) (n : Nat) : Decidable (Boundary s n) :=
  decidable_of_iff _ (boundary_iff s n).symm

/-- The longest first part of a text, in whole characters, that takes no more than so many bytes. -/
structure LongestPart (s : String) (n : Nat) (p : String) : Prop where
  begins : ∃ q, s = p ++ q
  fits : (encode p).length ≤ n
  longest : ∀ p' q', s = p' ++ q' → (encode p').length ≤ n → ∃ more, p = p' ++ more

/-- What is shown of a text of which so many bytes are left: its longest part, and behind it one replacement character
exactly where a character is cut. -/
def ShownCut (s : String) (n : Nat) (shown : String) : Prop :=
  ∃ p, LongestPart s n p ∧ (Boundary s n → shown = p) ∧ (¬Boundary s n → shown = p.push replacement)

/-- The first bytes of a text are whole characters and a part of the next one, which may be nothing of it. -/
theorem exists_cut (cs : List Char) : ∀ n ≤ (cs.flatMap String.utf8EncodeChar).length, ∃ ps qs part, cs = ps ++ qs ∧
    (cs.flatMap String.utf8EncodeChar).take n = ps.flatMap String.utf8EncodeChar ++ part ∧
      (part = [] ∨ ∃ c qs' rest, qs = c :: qs' ∧ String.utf8EncodeChar c = part ++ rest ∧ part ≠ [] ∧ rest ≠ []) := by
  induction cs with
  | nil =>
    intro n _
    exact ⟨[], [], [], rfl, by simp, .inl rfl⟩
  | cons c cs ih =>
    intro n hn
    rw [List.flatMap_cons, List.length_append] at hn
    rw [List.flatMap_cons]
    by_cases hc : n < (String.utf8EncodeChar c).length
    · refine ⟨[], c :: cs, (String.utf8EncodeChar c).take n, rfl, ?_, ?_⟩
      · rw [List.take_append_of_le_length (Nat.le_of_lt hc)]
        rfl
      · rcases Nat.eq_zero_or_pos n with rfl | hpos
        · exact .inl List.take_zero
        · refine .inr ⟨c, cs, (String.utf8EncodeChar c).drop n, rfl, (List.take_append_drop n _).symm, ?_, ?_⟩
          · rw [← List.length_pos_iff, List.length_take]
            omega
          · rw [← List.length_pos_iff, List.length_drop]
            omega
    · obtain ⟨ps, qs, part, hcs, htake, hpart⟩ := ih (n - (String.utf8EncodeChar c).length) (by omega)
      refine ⟨c :: ps, qs, part, by rw [hcs, List.cons_append], ?_, hpart⟩
      rw [List.take_append, List.take_of_length_le (by omega), htake, List.flatMap_cons, List.append_assoc]

/-- A longer first part takes more bytes, by those of its next character at least. -/
theorem encode_length_of_append_cons (p : String) (c : Char) (cs : List Char) :
    (encode p).length + (String.utf8EncodeChar c).length ≤ (encode (p ++ String.ofList (c :: cs))).length := by
  rw [encode_append, List.length_append, Nat.add_le_add_iff_left]
  simp [encode]

/-- The whole characters in front of a part of the next one are the longest part of the text, since a longer one would
need all bytes of that character. -/
theorem longestPart_of_part {s p q : String} {part : Bytes} (hs : s = p ++ q)
    (hpart : ∀ c cs, q.toList = c :: cs → part.length < (String.utf8EncodeChar c).length) :
    LongestPart s ((encode p).length + part.length) p where
  begins := ⟨q, hs⟩
  fits := Nat.le_add_right _ _
  longest := by
    intro p' q' hs' hlen
    have hsame : p.toList ++ q.toList = p'.toList ++ q'.toList := by
      rw [← String.toList_append, ← String.toList_append, ← hs, ← hs']
    rcases List.append_eq_append_iff.1 hsame with ⟨more, hp', hq⟩ | ⟨more, hp, -⟩
    · cases more with
      | nil =>
        refine ⟨"", String.toList_injective ?_⟩
        simpa using hp'.symm
      | cons c cs =>
        have hnext := hpart c (cs ++ q'.toList) (by simpa using hq)
        have hmore := encode_length_of_append_cons p c cs
        have heq : p' = p ++ String.ofList (c :: cs) := String.toList_injective (by simpa using hp')
        rw [heq] at hlen
        omega
    · exact ⟨String.ofList more, String.toList_injective (by simpa using hp)⟩

/-- The first bytes of a text are shown as its longest part, with one replacement character where they end inside a
character. At a boundary nothing is left of a next character, since the longest part would be longer by it. -/
theorem lossy_take (s : String) {n : Nat} (hn : n ≤ (encode s).length) :
    ShownCut s n (lossy ((encode s).take n)) := by
  obtain ⟨ps, qs, part, hs, htake, hpart⟩ := exists_cut s.toList n hn
  have htext : s = String.ofList ps ++ String.ofList qs := String.toList_injective (by simpa using hs)
  have hbytes : (encode s).take n = encode (String.ofList ps) ++ part := by
    rw [encode, htake, encode, String.toList_ofList]
  have hlen : n = (encode (String.ofList ps)).length + part.length := by
    have := congrArg List.length hbytes
    rwa [List.length_take, Nat.min_eq_left hn, List.length_append] at this
  have hlongest : LongestPart s n (String.ofList ps) := by
    rw [hlen]
    refine longestPart_of_part htext fun c cs hqs => ?_
    rw [String.toList_ofList] at hqs
    rcases hpart with rfl | ⟨d, qs', rest, hd, hchar, -, hrest⟩
    · exact String.length_utf8EncodeChar c ▸ Char.utf8Size_pos c
    · obtain ⟨rfl, -⟩ := List.cons.inj (hqs.symm.trans hd)
      rw [hchar, List.length_append]
      exact Nat.lt_add_of_pos_right (List.length_pos_iff.2 hrest)
  refine ⟨String.ofList ps, hlongest, fun hboundary => ?_, fun hinside => ?_⟩
  · obtain ⟨p', q', hs', hp'⟩ := hboundary
    obtain ⟨more, hmore⟩ := hlongest.longest p' q' hs' (Nat.le_of_eq hp')
    have hle : (encode p').length ≤ (encode (String.ofList ps)).length := by
      rw [hmore, encode_append, List.length_append]
      exact Nat.le_add_right _ _
    obtain rfl : part = [] := List.length_eq_zero_iff.1 (by omega)
    rw [hbytes, List.append_nil, lossy_encode]
  · rcases hpart with rfl | ⟨c, qs', rest, -, hchar, hne, hrest⟩
    · exact absurd ⟨_, _, htext, by simpa using hlen.symm⟩ hinside
    · rw [hbytes, lossy_part hchar hne hrest]

end Text

/-! ## Reports of text -/

/-- What a report shows of a channel. -/
def Report.shown (r : Report) : Channel → String
  | .stdout => r.stdout
  | .stderr => r.stderr

theorem Call.shown_report (call : Call) (sights : List Sight) (duration : Int) (c : Channel) :
    (call.report (.started sights) duration).shown c = Text.lossy ((Pump.run call.bounds {} sights).intake.kept c) := by
  cases c <;> rfl

/-- What a pump keeps of a channel is a first part of what the channel delivers. -/
theorem Pump.kept_isPrefix (bounds : Bounds) (sights : List Sight) (c : Channel) :
    (run bounds {} sights).intake.kept c <+: Sight.delivered c sights := by
  rw [intake_run_start, Intake.kept_ofArrival]
  have hfirst := share_take_prefix c bounds.outputLimit (arrival (handed bounds {} sights))
  exact hfirst.trans (share_handed_isPrefix bounds c sights)

/-- Whatever the limit, the pieces and the order of the reads, of an engine that prints text each channel is shown as
the longest part of its text that was kept, and behind it one replacement character exactly where the bytes that were
kept end inside a character. Both channels may be cut in one run. -/
theorem Call.report_cuts :
    (∀ (call : Call) (text : Channel → String) (sights : List Sight) (duration : Int),
      (∀ c, Sight.delivered c sights <+: Text.encode (text c)) →
        ∀ c, (Pump.run call.bounds {} sights).intake.kept c <+: Text.encode (text c) ∧
          Text.ShownCut (text c) ((Pump.run call.bounds {} sights).intake.kept c).length
            ((call.report (.started sights) duration).shown c)) ∧
      ∃ (call : Call) (text : Channel → String) (sights : List Sight),
        call.bounds.overflow = .truncate ∧ (∀ c, Sight.delivered c sights = Text.encode (text c)) ∧
          ∀ c, ¬Text.Boundary (text c) ((Pump.run call.bounds {} sights).intake.kept c).length := by
  constructor
  · intro call text sights duration htext c
    have hkept := (Pump.kept_isPrefix call.bounds sights c).trans (htext c)
    refine ⟨hkept, ?_⟩
    have hcut := Text.lossy_take (text c) hkept.length_le
    rwa [← List.prefix_iff_eq_take.1 hkept, ← call.shown_report sights duration c] at hcut
  · refine ⟨⟨.ofString "jqlite", [], ⟨.ofMilliseconds 500, 4, .truncate⟩⟩, fun c => if c = .stdout then "aé" else "bé",
      [.read .stdout [0x61, 0xC3], .read .stderr [0x62, 0xC3], .read .stdout [0xA9], .read .stderr [0xA9],
        .read .stdout [], .read .stderr [], .ended ⟨0⟩], rfl, ?_, ?_⟩
    · intro c
      cases c <;> decide
    · intro c
      cases c <;> decide

/-- A limit of three bytes inside a character of three, of which the reads bring one and then two. -/
theorem report_cuts_character :
    let call : Call := ⟨.ofString "jqlite", [], ⟨.ofMilliseconds 500, 3, .truncate⟩⟩
    let text : Channel → String := fun c => if c = .stdout then "a€" else ""
    let sights : List Sight :=
      [.read .stdout [0x61, 0xE2], .read .stderr [], .read .stdout [0x82, 0xAC], .read .stdout [], .ended ⟨0⟩]
    (∀ c, Sight.delivered c sights <+: Text.encode (text c)) ∧ (call.report (.started sights) 7).stdout = "a\ufffd" ∧
      Text.ShownCut "a€" ((Pump.run call.bounds {} sights).intake.kept .stdout).length
        ((call.report (.started sights) 7).shown .stdout) := by
  intro call text sights
  have htext : ∀ c, Sight.delivered c sights <+: Text.encode (text c) := by
    intro c
    cases c <;> decide
  exact ⟨htext, by decide, (Call.report_cuts.1 call text sights 7 htext .stdout).2⟩

end QueryGateway
