import QueryGateway.Proofs.Pump
import QueryGateway.Proofs.Verdicts

/-!
# When a query has a result

The verdict on a report is a result exactly when the run was not killed, has no fault, and printed nothing but blanks
on the second channel (`Report.queryVerdict_eq_result_iff`). A report has no fault exactly when the pump saw the
process exit with status zero (`Call.report_clean_iff`). Together with what a pump sees (`Pump.ending_exited_iff`):
under `abort` a result means that the whole run went well, and it is the whole output (`queryVerdict_of_attempt_iff`).
-/

namespace QueryGateway

/-! ## Reports -/

/-- Only status zero is no fault. -/
theorem WaitStatus.fault?_eq_none_iff (s : WaitStatus) : s.fault? = none ↔ s = ⟨0⟩ := by
  obtain ⟨word⟩ := s
  unfold fault?
  split
  · simp_all
  · rename_i hword
    split
    · simpa using hword
    · split <;> simpa using hword

/-- A verdict that is a result, read off the report. -/
theorem Report.queryVerdict_eq_result_iff (r : Report) (bounds : Bounds) (text : String) :
    r.queryVerdict bounds = .result text ↔
      r.killedByTimeout = false ∧ r.fault = none ∧ Text.allBlank r.stderr = true ∧ text = Text.trim r.stdout := by
  constructor
  · intro hresult
    have hway := r.queryWay bounds
    rw [hresult] at hway
    cases hway with
    | clean hlives hsilent hclean => exact ⟨hlives, hclean, hsilent, rfl⟩
  · rintro ⟨hlives, hclean, hsilent, rfl⟩
    exact QueryWay.eq (.clean hlives hsilent hclean)

/-- A report of a run that started has no fault exactly when the pump saw the process exit with status zero. -/
theorem Call.report_clean_iff (call : Call) (sights : List Sight) (duration : Int) :
    (call.report (.started sights) duration).killedByTimeout = false ∧
        (call.report (.started sights) duration).fault = none ↔
      (Pump.run call.bounds {} sights).ending = some (.exited ⟨0⟩) := by
  simp only [report]
  cases (Pump.run call.bounds {} sights).ending with
  | none => simp
  | some e =>
    cases e with
    | exited status => simp [faultOf, WaitStatus.fault?_eq_none_iff]
    | overflowed => simp [faultOf]
    | failed reason => simp [faultOf]

/-- The query verdict on a run that started is a result exactly when the run completed with status zero, nothing of it
had to be dropped under `abort`, and what was kept of the second channel is blank; the result is what was kept of the
first. -/
theorem Call.queryVerdict_started_iff (call : Call) (sights : List Sight) (duration : Int) (bounds : Bounds)
    (text : String) :
    (call.report (.started sights) duration).queryVerdict bounds = .result text ↔
      Sight.Completes sights ⟨0⟩ ∧
        (call.bounds.overflow = .abort → (Sight.arrived sights).length ≤ call.bounds.outputLimit) ∧
        Text.allBlank (Text.lossy (share .stderr ((Sight.arrived sights).take call.bounds.outputLimit))) = true ∧
        text = Text.trim (Text.lossy (share .stdout ((Sight.arrived sights).take call.bounds.outputLimit))) := by
  rw [Report.queryVerdict_eq_result_iff, ← and_assoc, call.report_clean_iff,
    ← and_assoc (a := Sight.Completes sights ⟨0⟩), ← Pump.ending_exited_iff call.bounds sights]
  refine and_congr_right fun hexit => ?_
  rw [report, Pump.intake_of_exited hexit]
  rfl

/-! ## Attempts -/

/-- One attempt at a run, told in full: it does not start, or it starts and these are all the sights of it, so many of
them before the deadline. -/
inductive Attempt where
  | refused (reason : String)
  | made (sights : List Sight) (inTime : Nat)
deriving DecidableEq, Repr

/-- What the gateway gets to see of an attempt. -/
def Attempt.course : Attempt → Course
  | refused reason => .notStarted reason
  | made sights inTime => .started (sights.take inTime)

/-- What follows the end of a channel delivers nothing on it. -/
theorem Sight.delivered_append {c : Channel} {sights : List Sight} (h : reachesEnd c sights = true)
    (more : List Sight) : delivered c (sights ++ more) = delivered c sights := by
  induction sights with
  | nil => cases h
  | cons sight rest ih =>
    cases sight with
    | read d chunk =>
      by_cases hd : d = c
      · by_cases hchunk : chunk = []
        · simp [delivered, hd, hchunk]
        · simp only [reachesEnd, hd, hchunk, and_false, if_false] at h
          simp [delivered, hd, hchunk, ih h]
      · simp only [reachesEnd, hd, false_and, if_false] at h
        simp [delivered, hd, ih h]
    | readFailed d reason =>
      by_cases hd : d = c
      · simp [reachesEnd, hd] at h
      · simp only [reachesEnd, hd, if_false] at h
        simp [delivered, hd, ih h]
    | ended status => exact ih h
    | waitFailed reason => exact ih h

/-- Under `abort` the query verdict on an attempt is a result exactly when it started, before its deadline both channels
came to their ends without a failed read and the process answered with status zero, all that was ever printed fits below
the limit, and the whole second channel is blank; and the result is the whole first channel, trimmed. -/
theorem queryVerdict_of_attempt_iff (call : Call) (habort : call.bounds.overflow = .abort) (attempt : Attempt)
    (duration : Int) (bounds : Bounds) (text : String) :
    (call.report attempt.course duration).queryVerdict bounds = .result text ↔
      ∃ sights inTime, attempt = .made sights inTime ∧ Sight.Completes (sights.take inTime) ⟨0⟩ ∧
        (Sight.delivered .stdout sights).length + (Sight.delivered .stderr sights).length ≤ call.bounds.outputLimit ∧
        Text.allBlank (Text.lossy (Sight.delivered .stderr sights)) = true ∧
        text = Text.trim (Text.lossy (Sight.delivered .stdout sights)) := by
  cases attempt with
  | refused reason =>
    simp [Attempt.course, Call.report, Report.notStarted, Report.failed, Report.queryVerdict_eq_result_iff]
  | made sights inTime =>
    have hwhole : Sight.Completes (sights.take inTime) ⟨0⟩ → ∀ c,
        Sight.delivered c (sights.take inTime) = Sight.delivered c sights := by
      intro h c
      have hmore := Sight.delivered_append (h.ends c) (sights.drop inTime)
      rw [List.take_append_drop] at hmore
      exact hmore.symm
    rw [Attempt.course, Call.queryVerdict_started_iff]
    constructor
    · rintro ⟨hdone, hfits, hblank, htext⟩
      have hlen := hfits habort
      rw [List.take_of_length_le hlen, Sight.share_arrived (hdone.ends _), hwhole hdone] at hblank htext
      rw [Sight.length_arrived hdone.ends, hwhole hdone, hwhole hdone] at hlen
      exact ⟨sights, inTime, rfl, hdone, hlen, hblank, htext⟩
    · rintro ⟨sights', inTime', heq, hdone, hlen, hblank, htext⟩
      cases heq
      rw [← hwhole hdone, ← hwhole hdone .stderr, ← Sight.length_arrived hdone.ends] at hlen
      rw [List.take_of_length_le hlen, Sight.share_arrived (hdone.ends _), Sight.share_arrived (hdone.ends _),
        hwhole hdone, hwhole hdone]
      exact ⟨hdone, fun _ => hlen, hblank, htext⟩

/-- A result with a blank second channel, and a failed read behind the deadline that nobody sees. -/
theorem queryVerdict_of_attempt_in_time :
    (⟨.ofString "jqlite", [], ⟨.ofMilliseconds 1, 3, .abort⟩⟩ : Call).bounds.overflow = .abort ∧
      ((⟨.ofString "jqlite", [], ⟨.ofMilliseconds 1, 3, .abort⟩⟩ : Call).report
        (Attempt.made [.read .stderr [0x20], .read .stdout [0x34], .read .stdout [0x32], .read .stdout [], .ended ⟨0⟩,
          .read .stderr [], .readFailed .stderr "late"] 6).course 1).queryVerdict .standard = .result "42" :=
  ⟨rfl, (queryVerdict_of_attempt_iff _ rfl _ _ _ _).2
    ⟨_, _, rfl, ⟨fun c => by cases c <;> rfl, rfl⟩, by decide, by decide, by decide⟩⟩

end QueryGateway
