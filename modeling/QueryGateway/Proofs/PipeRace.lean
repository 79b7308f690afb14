import QueryGateway.Proofs.QueryVerdict

/-!
# Two orders of reading

The two channels of a run are read in no fixed order and in no fixed pieces. Whether the query verdict depends on that
is settled here for an engine whose output and status are given. Under `abort` it does not. Under `truncate` the two
channels share what room there is, so the order decides how much of the second channel is kept; the verdict is the
same in all orders exactly when all the amounts that may be kept are blank or none is (`queryVerdict_agrees_iff`). In
particular the verdict depends on the order for an engine that prints a number and a warning
(`queryVerdict_depends_on_order`).
-/

namespace QueryGateway

/-- The sights of an engine that prints these bytes and ends with this status, in one order and in one choice of pieces.
-/
structure Sight.Plays (stdout stderr : Bytes) (status : WaitStatus) (sights : List Sight) : Prop
    extends Sight.Completes sights status where
  first : Sight.delivered .stdout sights = stdout
  second : Sight.delivered .stderr sights = stderr

/-- So many bytes of the second channel can be among the first bytes of the arrival, as many as the limit, the others
being of the first channel. -/
def MayKeep (limit : Nat) (stdout stderr : Bytes) (n : Nat) : Prop :=
  limit ≤ n + stdout.length ∧ n ≤ limit ∧ n ≤ stderr.length

namespace PipeRace

/-! ## What is kept of the second channel -/

/-- When all that is printed fits, the whole second channel is kept. -/
theorem kept_of_fits {stdout stderr : Bytes} {status : WaitStatus} {sights : List Sight} {limit : Nat}
    (h : Sight.Plays stdout stderr status sights) (hfits : stdout.length + stderr.length ≤ limit) :
    share .stderr ((Sight.arrived sights).take limit) = stderr := by
  have hlen := Sight.length_arrived h.ends
  rw [h.first, h.second] at hlen
  rw [List.take_of_length_le (by omega), Sight.share_arrived (h.ends _), h.second]

/-- When not all fits, what is kept of the second channel is one of the amounts that may be kept. -/
theorem kept_of_overflow {stdout stderr : Bytes} {status : WaitStatus} {sights : List Sight} {limit : Nat}
    (h : Sight.Plays stdout stderr status sights) (hover : limit < stdout.length + stderr.length) :
    ∃ n, MayKeep limit stdout stderr n ∧ share .stderr ((Sight.arrived sights).take limit) = stderr.take n := by
  have hpart : ∀ c, share c ((Sight.arrived sights).take limit) <+: Sight.delivered c sights := by
    intro c
    rw [← Sight.share_arrived (h.ends c)]
    exact share_take_prefix c limit _
  have hlen := Sight.length_arrived h.ends
  have hout := (hpart .stdout).length_le
  have herr := (hpart .stderr).length_le
  have hsum := length_shares ((Sight.arrived sights).take limit)
  rw [List.length_take] at hsum
  rw [h.first] at hout hlen
  rw [h.second] at herr hlen
  refine ⟨(share .stderr ((Sight.arrived sights).take limit)).length, ⟨by omega, by omega, herr⟩, ?_⟩
  have := List.prefix_iff_eq_take.1 (hpart .stderr)
  rwa [h.second] at this

/-! ## An order for each amount -/

/-- One read of these bytes, or none when there are no bytes. -/
def once (c : Channel) (bytes : Bytes) : List Sight :=
  if bytes = [] then [] else [.read c bytes]

theorem delivered_once (c d : Channel) (bytes : Bytes) (rest : List Sight) :
    Sight.delivered c (once d bytes ++ rest) = (if d = c then bytes else []) ++ Sight.delivered c rest := by
  unfold once
  by_cases hb : bytes = []
  · simp [hb]
  · by_cases hd : d = c <;> simp [Sight.delivered, hb, hd]

theorem reachesEnd_once (c d : Channel) (bytes : Bytes) (rest : List Sight) :
    Sight.reachesEnd c (once d bytes ++ rest) = Sight.reachesEnd c rest := by
  unfold once
  by_cases hb : bytes = [] <;> simp [Sight.reachesEnd, hb]

theorem answer?_once (d : Channel) (bytes : Bytes) (rest : List Sight) :
    Sight.answer? (once d bytes ++ rest) = Sight.answer? rest := by
  unfold once
  split <;> rfl

theorem arrived_once (d : Channel) (bytes : Bytes) (rest : List Sight) :
    Sight.arrived (once d bytes ++ rest) = bytes.map (Prod.mk d) ++ Sight.arrived rest := by
  unfold once
  by_cases hb : bytes = []
  · simp [hb]
  · simp [Sight.arrived, Sight.taken, hb, arrival_cons]

/-- The end of a run whose channels have nothing more to say. -/
def farewell (status : WaitStatus) : List Sight :=
  [.read .stdout [], .read .stderr [], .ended status]

/-- So many bytes of the second channel are read first, then the first channel, then the rest of the second. -/
def inOrder (n : Nat) (stdout stderr : Bytes) (status : WaitStatus) : List Sight :=
  once .stderr (stderr.take n) ++ (once .stdout stdout ++ (once .stderr (stderr.drop n) ++ farewell status))

theorem plays_inOrder (n : Nat) (stdout stderr : Bytes) (status : WaitStatus) :
    Sight.Plays stdout stderr status (inOrder n stdout stderr status) where
  ends := by
    intro c
    simp only [inOrder, reachesEnd_once]
    cases c <;> rfl
  answered := by
    simp only [inOrder, answer?_once]
    rfl
  first := by
    simp only [inOrder, delivered_once]
    simp [Sight.delivered, farewell]
  second := by
    simp only [inOrder, delivered_once]
    simp [Sight.delivered, farewell]

/-- In that order exactly so many bytes of the second channel are kept. -/
theorem kept_inOrder {limit n : Nat} {stdout stderr : Bytes} (status : WaitStatus)
    (hn : MayKeep limit stdout stderr n) :
    share .stderr ((Sight.arrived (inOrder n stdout stderr status)).take limit) = stderr.take n := by
  obtain ⟨h1, h2, h3⟩ := hn
  have hlen : ((stderr.take n).map (Prod.mk Channel.stderr)).length = n := by
    rw [List.length_map, List.length_take]
    omega
  have harrived : Sight.arrived (inOrder n stdout stderr status) =
      (stderr.take n).map (Prod.mk Channel.stderr) ++
        (stdout.map (Prod.mk Channel.stdout) ++ (stderr.drop n).map (Prod.mk Channel.stderr)) := by
    simp only [inOrder, arrived_once]
    simp [Sight.arrived, Sight.taken, farewell, arrival]
  have htake : (Sight.arrived (inOrder n stdout stderr status)).take limit =
      (stderr.take n).map (Prod.mk Channel.stderr) ++ (stdout.take (limit - n)).map (Prod.mk Channel.stdout) := by
    rw [harrived, List.take_append, hlen, List.take_of_length_le (by omega),
      List.take_append_of_le_length (by rw [List.length_map]; omega), ← List.map_take]
  rw [htake, share_append, share_mark_self, share_mark_other (by decide), List.append_nil]

/-! ## Verdicts -/

/-- A query verdict is good news exactly when it is a result. -/
theorem isSuccess_queryVerdict_iff (r : Report) (bounds : Bounds) :
    (r.queryVerdict bounds).isSuccess = true ↔ ∃ text, r.queryVerdict bounds = .result text := by
  unfold Report.queryVerdict
  split
  · simp [Reply.isSuccess]
  · dsimp only
    split
    · simp [Reply.isSuccess]
    · split <;> simp [Reply.isSuccess]

/-- The verdict on one order of reading: status zero, room for all under `abort`, and nothing but blanks among what was
kept of the second channel. -/
theorem isSuccess_of_plays_iff {stdout stderr : Bytes} {status : WaitStatus} {sights : List Sight}
    (h : Sight.Plays stdout stderr status sights) (call : Call) (duration : Int) (bounds : Bounds) :
    ((call.report (.started sights) duration).queryVerdict bounds).isSuccess = true ↔
      status = ⟨0⟩ ∧ (call.bounds.overflow = .abort → stdout.length + stderr.length ≤ call.bounds.outputLimit) ∧
        Text.allBlank (Text.lossy (share .stderr ((Sight.arrived sights).take call.bounds.outputLimit))) = true := by
  have hlen := Sight.length_arrived h.ends
  rw [h.first, h.second] at hlen
  simp only [isSuccess_queryVerdict_iff, Call.queryVerdict_started_iff, hlen]
  constructor
  · rintro ⟨text, hdone, hfits, hblank, -⟩
    have hstatus : some (Ending.exited status) = some (.exited ⟨0⟩) := h.answered.symm.trans hdone.answered
    cases hstatus
    exact ⟨rfl, hfits, hblank⟩
  · rintro ⟨rfl, hfits, hblank⟩
    exact ⟨_, h.toCompletes, hfits, hblank, rfl⟩

end PipeRace

open PipeRace

/-- For an engine with this output and this status, the query verdicts on all orders of reading are good news together
or bad news together exactly when the overflow choice is `abort`, or the status is not zero, or the amounts of the
second channel that may be kept below the limit are all blank or none of them is. -/
theorem queryVerdict_agrees_iff (call : Call) (stdout stderr : Bytes) (status : WaitStatus) (bounds : Bounds) :
    (∀ s₁ s₂, Sight.Plays stdout stderr status s₁ → Sight.Plays stdout stderr status s₂ → ∀ d₁ d₂,
        ((call.report (.started s₁) d₁).queryVerdict bounds).isSuccess =
          ((call.report (.started s₂) d₂).queryVerdict bounds).isSuccess) ↔
      call.bounds.overflow = .abort ∨ status ≠ ⟨0⟩ ∨
        ∀ n₁ n₂, MayKeep call.bounds.outputLimit stdout stderr n₁ → MayKeep call.bounds.outputLimit stdout stderr n₂ →
          Text.allBlank (Text.lossy (stderr.take n₁)) = Text.allBlank (Text.lossy (stderr.take n₂)) := by
  constructor
  · intro hagree
    by_cases habort : call.bounds.overflow = .abort
    · exact .inl habort
    by_cases hstatus : status = ⟨0⟩
    · refine .inr (.inr fun n₁ n₂ h₁ h₂ => ?_)
      have h := hagree _ _ (plays_inOrder n₁ stdout stderr status) (plays_inOrder n₂ stdout stderr status) 0 0
      rw [Bool.eq_iff_iff, isSuccess_of_plays_iff (plays_inOrder n₁ stdout stderr status),
        isSuccess_of_plays_iff (plays_inOrder n₂ stdout stderr status), kept_inOrder status h₁,
        kept_inOrder status h₂] at h
      rw [Bool.eq_iff_iff]
      simpa [hstatus, habort] using h
    · exact .inr (.inl hstatus)
  · intro hcond s₁ s₂ h₁ h₂ d₁ d₂
    rw [Bool.eq_iff_iff, isSuccess_of_plays_iff h₁, isSuccess_of_plays_iff h₂]
    refine and_congr_right fun hstatus => and_congr_right fun hfits => ?_
    by_cases hroom : stdout.length + stderr.length ≤ call.bounds.outputLimit
    · rw [kept_of_fits h₁ hroom, kept_of_fits h₂ hroom]
    · obtain ⟨n₁, hn₁, hk₁⟩ := kept_of_overflow h₁ (Nat.lt_of_not_le hroom)
      obtain ⟨n₂, hn₂, hk₂⟩ := kept_of_overflow h₂ (Nat.lt_of_not_le hroom)
      rw [hk₁, hk₂]
      rcases hcond with habort | hne | hsame
      · exact absurd (hfits habort) hroom
      · exact absurd hstatus hne
      · rw [hsame n₁ n₂ hn₁ hn₂]

/-- The verdict may depend on the order of reading: with room for two bytes, a number read first is a result, and a
warning read first is an error. -/
theorem queryVerdict_depends_on_order :
    ¬∀ (call : Call) (stdout stderr : Bytes) (status : WaitStatus) (s₁ s₂ : List Sight),
      Sight.Plays stdout stderr status s₁ → Sight.Plays stdout stderr status s₂ →
        ((call.report (.started s₁) 0).queryVerdict call.bounds).isSuccess =
          ((call.report (.started s₂) 0).queryVerdict call.bounds).isSuccess := by
  intro h
  have hsame := h ⟨.ofString "jqlite", [], ⟨.ofMilliseconds 5000, 2, .truncate⟩⟩ (Text.encode "42")
    (Text.encode "warning") ⟨0⟩ _ _ (plays_inOrder 0 _ _ _) (plays_inOrder 7 _ _ _)
  revert hsame
  decide

end QueryGateway
