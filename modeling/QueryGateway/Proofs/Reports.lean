import QueryGateway.Proofs.Handover
import QueryGateway.Proofs.QueryVerdict

/-!
# Reports that do not contradict themselves

However a run goes, the parts of its report fit together and fit the run (`Report.WellFormed`,
`Call.report_wellFormed`): it says killed exactly when its fault is the timeout, it says that the limit was exceeded
only where that stopped the run, and it is clean only when the run was. What a pump ended with is told by the sights
(`Pump.ending_cases`), and what a verdict quotes by the report (`Report.error_queryVerdict`,
`Report.error_traceVerdict`). So the wording of a timeout is never quoted as an execution error: a run whose time was
up is answered with the timeout that was set for it.
-/

namespace QueryGateway

/-! ## Statuses -/

namespace WaitStatus

/-- A status as waiting for a child gives it: a word of sixteen bits, and not the flag of a core dump alone, without the
signal that it belongs to. -/
def FromWait (s : WaitStatus) : Prop :=
  s.word.toNat ≤ 0xFFFF ∧ s.word ≠ 0x80

theorem low_eq_mod (s : WaitStatus) : s.low = s.word.toNat % 128 := by
  rw [low, UInt32.toNat_and]
  exact Nat.and_two_pow_sub_one_eq_mod s.word.toNat 7

theorem high_eq_mod (s : WaitStatus) : s.high = s.word.toNat / 256 % 256 := by
  have hshift : (s.word >>> 8).toNat = s.word.toNat / 256 := by
    rw [UInt32.toNat_shiftRight, Nat.shiftRight_eq_div_pow]
    rfl
  rw [high, UInt32.toNat_and, hshift]
  exact Nat.and_two_pow_sub_one_eq_mod _ 8

/-- An exit code is the fault of a status that is not success and names no signal. -/
theorem exitCode_of_fault? {s : WaitStatus} {code : Int} (h : s.fault? = some (.exitCode code)) :
    s.word ≠ 0 ∧ s.low = 0 ∧ code = s.high := by
  unfold fault? at h
  split at h
  · cases h
  next hword =>
    split at h
    next hlow =>
      cases h
      exact ⟨hword, hlow, rfl⟩
    next =>
      split at h <;> cases h

/-- The code that a waited status is reported with is not zero. -/
theorem exitCode_ne_zero {s : WaitStatus} (hs : s.FromWait) {code : Int} (h : s.fault? = some (.exitCode code)) :
    code ≠ 0 := by
  obtain ⟨hword, hlow, rfl⟩ := exitCode_of_fault? h
  obtain ⟨hbound, hflag⟩ := hs
  rw [low_eq_mod] at hlow
  rw [high_eq_mod]
  have hzero : s.word.toNat ≠ 0 := fun hz => hword (UInt32.toNat_inj.1 hz)
  have hlone : s.word.toNat ≠ 128 := fun hf => hflag (UInt32.toNat_inj.1 hf)
  omega

end WaitStatus

/-- A fault that the status of a process can be: an exit code, a signal, or words for an odd status. -/
def Fault.OfStatus : Fault → Prop
  | exitCode _ => True
  | signal _ => True
  | io _ => True
  | notStarted _ _ => False
  | timedOut _ => False
  | outputLimit _ => False

theorem WaitStatus.ofStatus_of_fault? {s : WaitStatus} {fault : Fault} (h : s.fault? = some fault) :
    fault.OfStatus := by
  unfold fault? at h
  split at h
  · cases h
  split at h
  · cases h
    trivial
  split at h
  · cases h
    trivial
  · cases h
    trivial

/-- A course in which every status is one that waiting gives. -/
def Course.FromWait : Course → Prop
  | notStarted _ => True
  | started sights => ∀ status, .ended status ∈ sights → status.FromWait

/-! ## Endings -/

/-- How a pump ends, told by its sights: not at all, with the status of a run that completes, at a read under `abort`
that did not fit below the limit, or with a read or a wait that failed. -/
theorem Pump.ending_cases (bounds : Bounds) (sights : List Sight) :
    (run bounds {} sights).ending = none ∨
      (∃ status, (run bounds {} sights).ending = some (.exited status) ∧ .ended status ∈ sights ∧
        Sight.Completes sights status) ∨
      ((run bounds {} sights).ending = some .overflowed ∧ bounds.overflow = .abort ∧
        bounds.outputLimit < (arrival (handed bounds {} sights)).length ∧
        (run bounds {} sights).intake.total = bounds.outputLimit) ∨
      ∃ reason, (run bounds {} sights).ending = some (.failed reason) ∧
        ((∃ c, .readFailed c reason ∈ sights) ∨ .waitFailed reason ∈ sights) := by
  have hgrounded := (grounded_run_start bounds sights).ending
  cases hending : (run bounds {} sights).ending with
  | none => exact .inl rfl
  | some e =>
    right
    have he := hgrounded e hending
    cases e with
    | exited status => exact .inl ⟨status, rfl, he, ((ending_exited_iff bounds sights status).1 hending).1⟩
    | overflowed =>
      obtain ⟨habort, hfull⟩ := he
      have hlong : bounds.outputLimit < (arrival (handed bounds {} sights)).length := by
        rwa [intake_run_start, Intake.ofArrival, decide_eq_true_iff] at hfull
      refine .inr (.inl ⟨rfl, habort, hlong, ?_⟩)
      rw [intake_run_start, Intake.total_ofArrival, Nat.min_eq_left (Nat.le_of_lt hlong)]
    | failed reason => exact .inr (.inr ⟨reason, rfl, he⟩)

/-! ## Verdicts -/

/-- The words with which the message of a timeout begins, and of no other fault. -/
def Fault.timeoutWords : String := "Process timed out"

theorem Fault.timeoutWords_prefix_iff (fault : Fault) :
    timeoutWords.toList <+: fault.message.toList ↔ ∃ milliseconds, fault = .timedOut milliseconds := by
  have hwords : timeoutWords = "Process timed out" := rfl
  rw [hwords]
  cases fault with
  | notStarted program reason =>
    have h : (notStarted program reason).message = "Failed to spawn " ++ program ++ ": " ++ reason := rfl
    simp [h]
  | exitCode code =>
    have h : (exitCode code).message = "Process exited with code " ++ toString code := rfl
    simp [h]
  | signal number =>
    have h : (signal number).message = "Process terminated by signal " ++ toString number := rfl
    simp [h]
  | timedOut milliseconds =>
    have h : (timedOut milliseconds).message = "Process timed out after " ++ Nat.repr milliseconds ++ "ms" := rfl
    simp [h]
  | outputLimit limit =>
    have h : (outputLimit limit).message = "Output exceeded the limit of " ++ Nat.repr limit ++ " bytes" := rfl
    simp [h]
  | io reason =>
    have h : (io reason).message = "I/O error while waiting for process: " ++ reason := rfl
    simp [h]

namespace Report

/-- The error in a query verdict is the timeout, what the engine said on the second channel, or the fault quoted. -/
theorem error_queryVerdict {r : Report} {bounds : Bounds} {error : String}
    (h : (r.queryVerdict bounds).error? = some error) :
    r.killedByTimeout = true ∧ error = timeoutError "Query execution" bounds ∨
      r.killedByTimeout = false ∧
        (error = Text.trim r.stderr ∨ ∃ fault, r.fault = some fault ∧ error = faultLead ++ fault.message) := by
  have hway := r.queryWay bounds
  generalize r.queryVerdict bounds = reply at hway h
  cases hway with
  | late hkilled => exact .inl ⟨hkilled, (Option.some.inj h).symm⟩
  | said hlives => exact .inr ⟨hlives, .inl (Option.some.inj h).symm⟩
  | faulty fault hlives _ hfault => exact .inr ⟨hlives, .inr ⟨fault, hfault, (Option.some.inj h).symm⟩⟩
  | clean => cases h

/-- The error in a trace verdict is the timeout, the fault quoted, or that the output holds no trace. -/
theorem error_traceVerdict {r : Report} {bounds : Bounds} {error : String}
    (h : (r.traceVerdict bounds).error? = some error) :
    r.killedByTimeout = true ∧ error = timeoutError "Visualization" bounds ∨
      r.killedByTimeout = false ∧
        (error = Trace.unreadable ∨ ∃ fault, r.fault = some fault ∧ error = faultLead ++ fault.message) := by
  have hway := r.traceWay bounds
  generalize r.traceVerdict bounds = reply at hway h
  cases hway with
  | late hkilled => exact .inl ⟨hkilled, (Option.some.inj h).symm⟩
  | faulty fault hlives hfault => exact .inr ⟨hlives, .inr ⟨fault, hfault, (Option.some.inj h).symm⟩⟩
  | read => cases h
  | unreadable _ hlives => exact .inr ⟨hlives, .inl (Option.some.inj h).symm⟩

end Report

/-! ## How a report comes about -/

/-- All the ways in which a report comes about. -/
inductive Report.Of (call : Call) (course : Course) (r : Report) : Prop where
  | notStarted {reason : String} (hcourse : course = .notStarted reason) (hkilled : r.killedByTimeout = false)
      (hfault : r.fault = some (.notStarted call.program.display reason)) (hsilent : r.stdout = "" ∧ r.stderr = "")
  | timedOut {sights : List Sight} (hcourse : course = .started sights) (hkilled : r.killedByTimeout = true)
      (hfault : r.fault = some (.timedOut call.bounds.timeout.unsignedMilliseconds))
  | exited {sights : List Sight} {status : WaitStatus} (hcourse : course = .started sights)
      (hkilled : r.killedByTimeout = false) (hfault : r.fault = status.fault?) (hended : .ended status ∈ sights)
      (hdone : Sight.Completes sights status)
  | overflowed {sights : List Sight} (hcourse : course = .started sights) (hkilled : r.killedByTimeout = false)
      (hfault : r.fault = some (.outputLimit call.bounds.outputLimit)) (habort : call.bounds.overflow = .abort)
      (hlong : call.bounds.outputLimit < (arrival (Pump.handed call.bounds {} sights)).length)
      (htotal : (Pump.run call.bounds {} sights).intake.total = call.bounds.outputLimit)
  | failed {sights : List Sight} {reason : String} (hcourse : course = .started sights)
      (hkilled : r.killedByTimeout = false) (hfault : r.fault = some (.io reason))
      (hseen : (∃ c, .readFailed c reason ∈ sights) ∨ .waitFailed reason ∈ sights)

/-- A report comes about in one of these ways. -/
theorem Call.of_report (call : Call) (course : Course) (duration : Int) :
    Report.Of call course (call.report course duration) := by
  cases course with
  | notStarted reason => exact .notStarted rfl rfl rfl ⟨rfl, rfl⟩
  | started sights =>
    have hkilled : (call.report (.started sights) duration).killedByTimeout =
        (Pump.run call.bounds {} sights).ending.isNone := rfl
    have hfault : (call.report (.started sights) duration).fault =
        call.faultOf (Pump.run call.bounds {} sights).ending := rfl
    rcases Pump.ending_cases call.bounds sights with
      hend | ⟨status, hend, hended, hdone⟩ | ⟨hend, habort, hlong, htotal⟩ | ⟨reason, hend, hseen⟩ <;>
      rw [hend] at hkilled hfault
    · exact .timedOut rfl hkilled hfault
    · exact .exited rfl hkilled hfault hended hdone
    · exact .overflowed rfl hkilled hfault habort hlong htotal
    · exact .failed rfl hkilled hfault hseen

namespace Report.Of

variable {call : Call} {course : Course} {r : Report}

/-- A report says killed exactly when its fault is the timeout. -/
theorem killed_iff (h : Of call course r) :
    r.killedByTimeout = true ↔ ∃ milliseconds, r.fault = some (.timedOut milliseconds) := by
  cases h with
  | notStarted _ hkilled hfault _ => simp [hkilled, hfault]
  | timedOut _ hkilled hfault => simp [hkilled, hfault]
  | exited _ hkilled hfault _ _ =>
    refine iff_of_false (by simp [hkilled]) ?_
    rintro ⟨milliseconds, htimeout⟩
    exact WaitStatus.ofStatus_of_fault? (hfault.symm.trans htimeout)
  | overflowed _ hkilled hfault _ _ _ => simp [hkilled, hfault]
  | failed _ hkilled hfault _ => simp [hkilled, hfault]

/-- The limit is a fault only where it stopped the run. -/
theorem outputLimit (h : Of call course r) {limit : Nat} (hlimit : r.fault = some (.outputLimit limit)) :
    call.bounds.overflow = .abort ∧ limit = call.bounds.outputLimit ∧
      ∃ sights, course = .started sights ∧ limit < (arrival (Pump.handed call.bounds {} sights)).length ∧
        (Pump.run call.bounds {} sights).intake.total = limit := by
  cases h with
  | notStarted _ _ hfault _ => simp [hfault] at hlimit
  | timedOut _ _ hfault => simp [hfault] at hlimit
  | exited _ _ hfault _ _ => exact (WaitStatus.ofStatus_of_fault? (hfault.symm.trans hlimit)).elim
  | overflowed hcourse _ hfault habort hlong htotal =>
    obtain rfl : call.bounds.outputLimit = limit := by simpa [hfault] using hlimit
    exact ⟨habort, rfl, _, hcourse, hlong, htotal⟩
  | failed _ _ hfault _ => simp [hfault] at hlimit

/-- An exit code in a report is not zero. -/
theorem exitCode (h : Of call course r) (hcourse : course.FromWait) {code : Int}
    (hcode : r.fault = some (.exitCode code)) : code ≠ 0 := by
  cases h with
  | notStarted _ _ hfault _ => simp [hfault] at hcode
  | timedOut _ _ hfault => simp [hfault] at hcode
  | exited hstarted _ hfault hended _ =>
    subst hstarted
    exact WaitStatus.exitCode_ne_zero (hcourse _ hended) (hfault.symm.trans hcode)
  | overflowed _ _ hfault _ _ _ => simp [hfault] at hcode
  | failed _ _ hfault _ => simp [hfault] at hcode

/-- A report without a fault is that of a run that completed with success. -/
theorem clean (h : Of call course r) (hnone : r.fault = none) :
    ∃ sights, course = .started sights ∧ Sight.Completes sights ⟨0⟩ := by
  cases h with
  | notStarted _ _ hfault _ => simp [hfault] at hnone
  | timedOut _ _ hfault => simp [hfault] at hnone
  | exited hcourse _ hfault _ hdone =>
    obtain rfl := (WaitStatus.fault?_eq_none_iff _).1 (hfault.symm.trans hnone)
    exact ⟨_, hcourse, hdone⟩
  | overflowed _ _ hfault _ _ _ => simp [hfault] at hnone
  | failed _ _ hfault _ => simp [hfault] at hnone

/-- A run that did not start has printed nothing. -/
theorem silent (h : Of call course r) {program reason : String}
    (hstart : r.fault = some (.notStarted program reason)) : r.stdout = "" ∧ r.stderr = "" := by
  cases h with
  | notStarted _ _ _ hsilent => exact hsilent
  | timedOut _ _ hfault => simp [hfault] at hstart
  | exited _ _ hfault _ _ => exact (WaitStatus.ofStatus_of_fault? (hfault.symm.trans hstart)).elim
  | overflowed _ _ hfault _ _ _ => simp [hfault] at hstart
  | failed _ _ hfault _ => simp [hfault] at hstart

/-- Under `truncate` a run that started and was not killed completes with the status that its fault tells, or a read
or a wait failed and is the fault. -/
theorem inTime (h : Of call course r) (htruncate : call.bounds.overflow = .truncate) {sights : List Sight}
    (hstarted : course = .started sights) (hlives : r.killedByTimeout = false) :
    (∃ status, Sight.Completes sights status ∧ r.fault = status.fault?) ∨
      ∃ reason, r.fault = some (.io reason) ∧ ((∃ c, .readFailed c reason ∈ sights) ∨ .waitFailed reason ∈ sights) := by
  subst hstarted
  cases h with
  | notStarted hcourse _ _ _ => cases hcourse
  | timedOut _ hkilled _ => simp [hkilled] at hlives
  | exited hcourse _ hfault _ hdone =>
    cases hcourse
    exact .inl ⟨_, hdone, hfault⟩
  | overflowed _ _ _ habort _ _ => simp [htruncate] at habort
  | failed hcourse _ hfault hseen =>
    cases hcourse
    exact .inr ⟨_, hfault, hseen⟩

/-- A fault of a report that was not killed is not worded like a timeout. -/
theorem not_timeoutWords (h : Of call course r) (hlives : r.killedByTimeout = false) {fault : Fault}
    (hfault : r.fault = some fault) : ¬Fault.timeoutWords.toList <+: fault.message.toList := by
  intro hwords
  obtain ⟨milliseconds, rfl⟩ := (Fault.timeoutWords_prefix_iff fault).1 hwords
  have hkilled := h.killed_iff.2 ⟨milliseconds, hfault⟩
  simp [hkilled] at hlives

end Report.Of

/-! ## Well-formed reports -/

/-- The report of a call that took a course fits together and fits the course. -/
structure Report.WellFormed (call : Call) (course : Course) (r : Report) : Prop where
  killed_iff : r.killedByTimeout = true ↔ ∃ milliseconds, r.fault = some (.timedOut milliseconds)
  /-- The limit was exceeded only under `abort`, by more than the limit, and exactly the limit was kept. -/
  outputLimit : ∀ limit, r.fault = some (.outputLimit limit) →
    call.bounds.overflow = .abort ∧ limit = call.bounds.outputLimit ∧
      ∃ sights, course = .started sights ∧ limit < (arrival (Pump.handed call.bounds {} sights)).length ∧
        (Pump.run call.bounds {} sights).intake.total = limit
  /-- Under `truncate` a run that completes is reported with the fault of its status. -/
  truncated : call.bounds.overflow = .truncate → ∀ sights status, course = .started sights →
    Sight.Completes sights status → r.killedByTimeout = false ∧ r.fault = status.fault?
  /-- Under `truncate` a run that started and was not killed completes with the status that its fault tells, or a read
  or a wait failed and is the fault. -/
  inTime : call.bounds.overflow = .truncate → ∀ sights, course = .started sights → r.killedByTimeout = false →
    (∃ status, Sight.Completes sights status ∧ r.fault = status.fault?) ∨
      ∃ reason, r.fault = some (.io reason) ∧ ((∃ c, .readFailed c reason ∈ sights) ∨ .waitFailed reason ∈ sights)
  exitCode : ∀ code, r.fault = some (.exitCode code) → code ≠ 0
  /-- No fault means that both channels came to their ends and the process ended with success. -/
  clean : r.fault = none → ∃ sights, course = .started sights ∧ Sight.Completes sights ⟨0⟩
  silent : ∀ program reason, r.fault = some (.notStarted program reason) → r.stdout = "" ∧ r.stderr = ""
  /-- A timeout is answered with the timeout that was set. -/
  timedOut : (∃ milliseconds, r.fault = some (.timedOut milliseconds)) →
    r.queryVerdict call.bounds = .failure (timeoutError "Query execution" call.bounds) ∧
      r.traceVerdict call.bounds = .bareTraceFailure (timeoutError "Visualization" call.bounds)
  /-- A fault that a query verdict quotes is not worded like a timeout. -/
  query : ∀ error, (r.queryVerdict call.bounds).error? = some error →
    r.killedByTimeout = true ∧ error = timeoutError "Query execution" call.bounds ∨ error = Text.trim r.stderr ∨
      ∃ fault, r.fault = some fault ∧ error = faultLead ++ fault.message ∧
        ¬Fault.timeoutWords.toList <+: fault.message.toList
  /-- A fault that a trace verdict quotes is not worded like a timeout. -/
  trace : ∀ error, (r.traceVerdict call.bounds).error? = some error →
    r.killedByTimeout = true ∧ error = timeoutError "Visualization" call.bounds ∨ error = Trace.unreadable ∨
      ∃ fault, r.fault = some fault ∧ error = faultLead ++ fault.message ∧
        ¬Fault.timeoutWords.toList <+: fault.message.toList

/-- Every report is well-formed, if the statuses in the run are such as waiting gives. -/
theorem Call.report_wellFormed (call : Call) (course : Course) (hcourse : course.FromWait) (duration : Int) :
    Report.WellFormed call course (call.report course duration) := by
  have h := call.of_report course duration
  exact
    { killed_iff := h.killed_iff
      outputLimit := fun limit => h.outputLimit
      truncated := by
        rintro htruncate sights status rfl hdone
        have hend : (Pump.run call.bounds {} sights).ending = some (.exited status) :=
          (Pump.ending_exited_iff call.bounds sights status).2 ⟨hdone, fun habort => by simp [htruncate] at habort⟩
        simp [report, faultOf, hend]
      inTime := fun htruncate sights => h.inTime htruncate
      exitCode := fun code => h.exitCode hcourse
      clean := h.clean
      silent := fun program reason => h.silent
      timedOut := by
        intro hfault
        have hkilled := h.killed_iff.2 hfault
        simp [Report.queryVerdict, Report.traceVerdict, hkilled]
      query := by
        intro error herror
        rcases Report.error_queryVerdict herror with hkilled | ⟨hlives, hsaid | ⟨fault, hfault, hquoted⟩⟩
        · exact .inl hkilled
        · exact .inr (.inl hsaid)
        · exact .inr (.inr ⟨fault, hfault, hquoted, h.not_timeoutWords hlives hfault⟩)
      trace := by
        intro error herror
        rcases Report.error_traceVerdict herror with hkilled | ⟨hlives, hnone | ⟨fault, hfault, hquoted⟩⟩
        · exact .inl hkilled
        · exact .inr (.inl hnone)
        · exact .inr (.inr ⟨fault, hfault, hquoted, h.not_timeoutWords hlives hfault⟩) }

/-- A run that is stopped at its fourth byte where three are allowed, after its process was ended by a signal with a
core dump. -/
theorem report_wellFormed_overflow :
    let call : Call := ⟨.ofString "jqlite", [], ⟨.ofMilliseconds 500, 3, .abort⟩⟩
    let course : Course := .started [.read .stderr [0x61, 0x62], .ended ⟨0x8B⟩, .read .stdout [0x63, 0x64]]
    course.FromWait ∧ (call.report course 4).fault = some (.outputLimit 3) ∧
      Report.WellFormed call course (call.report course 4) := by
  intro call course
  have h : course.FromWait := by
    intro status hmem
    obtain rfl : status = ⟨0x8B⟩ := by simpa [course] using hmem
    exact ⟨by decide, by decide⟩
  exact ⟨h, by decide, call.report_wellFormed course h 4⟩

end QueryGateway
