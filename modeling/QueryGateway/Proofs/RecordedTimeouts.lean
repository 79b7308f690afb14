import QueryGateway.Proofs.Reports
import QueryGateway.Proofs.TimeoutLabels

/-!
# The recorded timeout is the one that was set

A timeout is set as a span of time, said in the words of its label, and recorded as a machine word. The label says the
whole milliseconds of the span and no other number (`Bounds.labelSays_timeoutLabel_iff`). A word can say them if there
are fewer than 2^64, and as many are recorded then, by a run that was stopped as by a report made for a timeout
(`Bounds.recordsTimeout`). A timeout under one millisecond has none.
-/

namespace QueryGateway

/-! ## Milliseconds -/

namespace Span

variable {t : Span}

/-- A span has whole milliseconds when it is as long as one. -/
theorem milliseconds_pos_iff : 0 < t.milliseconds ↔ (ofMilliseconds 1).nanoseconds ≤ t.nanoseconds := by
  rw [milliseconds, ofMilliseconds, Nat.one_mul]
  exact Nat.div_pos_iff.trans (and_iff_right (by decide))

/-- Of milliseconds that a word can say, an unsigned word says as many. -/
theorem unsignedMilliseconds_of_lt (h : t.milliseconds < UInt64.size) : t.unsignedMilliseconds = t.milliseconds :=
  Nat.mod_eq_of_lt h

/-- Of milliseconds that take half of the words, a signed word says as many. -/
theorem signedMilliseconds_of_lt (h : t.milliseconds < UInt64.size / 2) : t.signedMilliseconds = t.milliseconds := by
  have hbmod : ∀ n size : Nat, n < size / 2 → Int.bmod n size = n := by
    intro n size hn
    exact Int.bmod_eq_of_le (by omega) (by omega)
  exact hbmod _ _ h

end Span

namespace Bounds

/-! ## Labels -/

/-- The words of a label say a number of milliseconds. -/
def LabelSays (label : String) (milliseconds : Nat) : Prop :=
  (label = "1 second" ∧ milliseconds = 1000) ∨
    (∃ n, label = Nat.repr n ++ " seconds" ∧ milliseconds = 1000 * n) ∨
    label = Nat.repr milliseconds ++ " ms"

/-- Words that say a number are read as it, and so they say one number at most. -/
theorem LabelSays.labelMilliseconds_eq {label : String} {n : Nat} (h : LabelSays label n) :
    labelMilliseconds label = some n := by
  rcases h with ⟨rfl, rfl⟩ | ⟨seconds, rfl, rfl⟩ | rfl
  · have hparts : labelParts "1 second" = some (1, "second") := labelParts_append 1 " second" (by decide) (by decide)
    exact labelMilliseconds_of_labelParts hparts rfl
  · have hparts : labelParts (Nat.repr seconds ++ " seconds") = some (seconds, "seconds") :=
      labelParts_append seconds " seconds" (by decide) (by decide)
    rw [labelMilliseconds_of_labelParts hparts rfl, Nat.mul_comm]
  · have hparts : labelParts (Nat.repr n ++ " ms") = some (n, "ms") :=
      labelParts_append n " ms" (by decide) (by decide)
    rw [labelMilliseconds_of_labelParts hparts rfl, Nat.mul_one]

/-- The label of a timeout says the whole milliseconds of it. -/
theorem labelSays_timeoutLabel (b : Bounds) : LabelSays b.timeoutLabel b.timeout.milliseconds := by
  unfold timeoutLabel
  simp only
  split
  case isTrue hsecond => exact .inl ⟨rfl, hsecond⟩
  split
  case isTrue hseconds => exact .inr (.inl ⟨_, rfl, by omega⟩)
  case isFalse => exact .inr (.inr rfl)

/-- It says no other number. -/
theorem labelSays_timeoutLabel_iff {b : Bounds} {n : Nat} :
    LabelSays b.timeoutLabel n ↔ n = b.timeout.milliseconds := by
  constructor
  · intro h
    have hread := b.labelMilliseconds_timeoutLabel
    rw [h.labelMilliseconds_eq] at hread
    exact Option.some.inj hread
  · rintro rfl
    exact b.labelSays_timeoutLabel

end Bounds

/-! ## Records -/

/-- The timeout in a report is the one of the call. -/
theorem Report.Of.milliseconds {call : Call} {course : Course} {r : Report} (h : Of call course r) {n : Nat}
    (htimeout : r.fault = some (.timedOut n)) : n = call.bounds.timeout.unsignedMilliseconds := by
  cases h with
  | notStarted _ _ hfault _ => simp [hfault] at htimeout
  | timedOut _ _ hfault => simpa [hfault, eq_comm] using htimeout
  | exited _ _ hfault _ _ => exact (WaitStatus.ofStatus_of_fault? (hfault.symm.trans htimeout)).elim
  | overflowed _ _ hfault _ _ _ => simp [hfault] at htimeout
  | failed _ _ hfault _ => simp [hfault] at htimeout

namespace Bounds

/-- What is recorded of the timeout in some bounds. -/
structure RecordsTimeout (b : Bounds) : Prop where
  /-- The label says the whole milliseconds of the timeout and no other number. -/
  label : ∀ n, LabelSays b.timeoutLabel n ↔ n = b.timeout.milliseconds
  /-- They are more than none exactly when the timeout is a millisecond at least. -/
  positive : 0 < b.timeout.milliseconds ↔ (Span.ofMilliseconds 1).nanoseconds ≤ b.timeout.nanoseconds
  /-- If a word can say them, a run that is stopped at the timeout is recorded with them. -/
  stopped : b.timeout.milliseconds < UInt64.size → ∀ (call : Call) (course : Course) (duration : Int), call.bounds = b →
    ((call.report course duration).killedByTimeout = true ↔
      (call.report course duration).fault = some (.timedOut b.timeout.milliseconds))
  /-- No run is recorded with others. -/
  recorded : b.timeout.milliseconds < UInt64.size → ∀ (call : Call) (course : Course) (duration : Int) (n : Nat),
    call.bounds = b → (call.report course duration).fault = some (.timedOut n) → n = b.timeout.milliseconds
  /-- A report that is made for the timeout has them too. -/
  made : b.timeout.milliseconds < UInt64.size →
    (Report.timedOut b.timeout).fault = some (.timedOut b.timeout.milliseconds)
  /-- It says that the run took as long, if a signed word can say it. -/
  duration : b.timeout.milliseconds < UInt64.size / 2 →
    (Report.timedOut b.timeout).duration = b.timeout.milliseconds

/-- The timeout of any bounds is recorded as its whole milliseconds, which are those that its label says. -/
theorem recordsTimeout (b : Bounds) : b.RecordsTimeout where
  label n := labelSays_timeoutLabel_iff
  positive := Span.milliseconds_pos_iff
  stopped := by
    rintro hword call course duration rfl
    have hof := call.of_report course duration
    rw [hof.killed_iff]
    constructor
    · rintro ⟨n, htimeout⟩
      rw [htimeout, hof.milliseconds htimeout, Span.unsignedMilliseconds_of_lt hword]
    · intro htimeout
      exact ⟨_, htimeout⟩
  recorded := by
    rintro hword call course duration n rfl htimeout
    rw [(call.of_report course duration).milliseconds htimeout, Span.unsignedMilliseconds_of_lt hword]
  made hword := congrArg (fun n => some (Fault.timedOut n)) (Span.unsignedMilliseconds_of_lt hword)
  duration := by
    intro hword
    simp only [Report.timedOut, Span.signedMilliseconds_of_lt hword]

/-- A timeout of half a millisecond is recorded as none, one of more milliseconds than words as the rest of them, and
one of more than signed words as a run that took less than no time. -/
theorem recordsTimeout_unlike :
    let short : Bounds := ⟨⟨500000⟩, 1, .abort⟩
    let long : Bounds := ⟨.ofMilliseconds 18446744073709552000, 1, .abort⟩
    let signed : Bounds := ⟨.ofMilliseconds 9223372036854775808, 1, .abort⟩
    let fault := fun b : Bounds => ((⟨.ofString "jqlite", [], b⟩ : Call).report (.started []) 0).fault
    (short.validate = .ok () ∧ fault short = some (.timedOut 0)) ∧
      (long.validate = .ok () ∧ long.timeoutLabel = "18446744073709552 seconds" ∧ fault long = some (.timedOut 384) ∧
        (Report.timedOut long.timeout).fault = some (.timedOut 384)) ∧
      (signed.validate = .ok () ∧ (Report.timedOut signed.timeout).duration < 0) := by
  decide

end Bounds

end QueryGateway
