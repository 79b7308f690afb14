import QueryGateway.Proofs.Verdicts

/-!
# What a verdict looks at

Each verdict comes about in one of four ways (`Report.QueryWay`, `Report.TraceWay`), and each way names the parts of the
report that it looks at. Two reports that agree on those parts have the same verdict, so everything here is said of
pairs of reports and read off the ways: blanks around what was printed never count on the query path, the second channel
never decides on the trace path, and no error is empty (`Report.verdict_sources`).
-/

namespace QueryGateway

/-! ## No error is empty -/

/-- With some words in front a text is not empty. -/
theorem Text.append_ne_empty {lead : String} (h : lead ≠ "") (rest : String) : lead ++ rest ≠ "" := by
  intro hnone
  exact h (String.append_eq_empty_iff.1 hnone).1

namespace Report

theorem timeoutError_ne_empty {subject : String} (h : subject ≠ "") (bounds : Bounds) :
    timeoutError subject bounds ≠ "" := by
  rw [timeoutError, String.append_assoc, String.append_assoc]
  exact Text.append_ne_empty h _

theorem faultLead_ne_empty (fault : Fault) : faultLead ++ fault.message ≠ "" :=
  Text.append_ne_empty (by decide) _

/-! ## Pairs of reports -/

section
variable {r : Report} {bounds : Bounds}

/-- Reports that were killed alike, have the same fault, and whose channels are trimmed to the same have the same
verdict as queries. -/
theorem queryVerdict_congr {r' : Report} (hkilled : r'.killedByTimeout = r.killedByTimeout) (hfault : r'.fault = r.fault)
    (hout : Text.trim r'.stdout = Text.trim r.stdout) (herr : Text.trim r'.stderr = Text.trim r.stderr) :
    r'.queryVerdict bounds = r.queryVerdict bounds := by
  have hblank : Text.allBlank r'.stderr = Text.allBlank r.stderr := by
    rw [Bool.eq_iff_iff, ← Text.trim_eq_empty_iff, ← Text.trim_eq_empty_iff, herr]
  have hway := r.queryWay bounds
  generalize r.queryVerdict bounds = reply at hway
  cases hway with
  | late h => exact QueryWay.eq (.late (hkilled.trans h))
  | said hlives hsaid =>
    rw [← herr]
    exact QueryWay.eq (.said (hkilled.trans hlives) (hblank.trans hsaid))
  | faulty fault hlives hsilent hfaulty =>
    exact QueryWay.eq (.faulty fault (hkilled.trans hlives) (hblank.trans hsilent) (hfault.trans hfaulty))
  | clean hlives hsilent hclean =>
    rw [← hout]
    exact QueryWay.eq (.clean (hkilled.trans hlives) (hblank.trans hsilent) (hfault.trans hclean))

/-- What was printed is not looked at unless the run ended cleanly and said nothing else. -/
theorem queryVerdict_stdout (h : r.killedByTimeout = true ∨ r.fault ≠ none ∨ Text.allBlank r.stderr = false)
    (stdout : String) : ({ r with stdout := stdout } : Report).queryVerdict bounds = r.queryVerdict bounds := by
  have hway := r.queryWay bounds
  generalize r.queryVerdict bounds = reply at hway
  cases hway with
  | late hkilled => exact QueryWay.eq (.late hkilled)
  | said hlives hsaid => exact QueryWay.eq (.said hlives hsaid)
  | faulty fault hlives hsilent hfaulty => exact QueryWay.eq (.faulty fault hlives hsilent hfaulty)
  | clean hlives hsilent hclean =>
    rcases h with hkilled | hfaulty | hsaid
    · rw [hlives] at hkilled
      cases hkilled
    · exact absurd hclean hfaulty
    · rw [hsilent] at hsaid
      cases hsaid

/-- What was printed is not looked at for a trace when the run was killed or has a fault. -/
theorem traceVerdict_stdout (h : r.killedByTimeout = true ∨ r.fault ≠ none) (stdout : String) :
    ({ r with stdout := stdout } : Report).traceVerdict bounds = r.traceVerdict bounds := by
  have hclean : r.killedByTimeout = false → r.fault = none → False := by
    intro hlives hnone
    rcases h with hkilled | hfaulty
    · rw [hlives] at hkilled
      cases hkilled
    · exact hfaulty hnone
  have hway := r.traceWay bounds
  generalize r.traceVerdict bounds = reply at hway
  cases hway with
  | late hkilled => exact TraceWay.eq (.late hkilled)
  | faulty fault hlives hfaulty => exact TraceWay.eq (.faulty fault hlives hfaulty)
  | read document hlives hnone => exact (hclean hlives hnone).elim
  | unreadable flaw hlives hnone => exact (hclean hlives hnone).elim

/-- Whatever the second channel holds, the verdict is the same trace, or no trace with the same error and the same
output. -/
theorem traceVerdict_stderr (r : Report) (bounds : Bounds) (stderr : String) :
    let r' : Report := { r with stderr := stderr }
    (r'.traceVerdict bounds).isSuccess = (r.traceVerdict bounds).isSuccess ∧
      ∀ document, r'.traceVerdict bounds = .trace document ↔ r.traceVerdict bounds = .trace document := by
  intro r'
  have hway := r.traceWay bounds
  generalize r.traceVerdict bounds = reply at hway
  cases hway with
  | late hkilled =>
    have hverdict : r'.traceVerdict bounds = _ := TraceWay.eq (.late hkilled)
    rw [hverdict]
    exact ⟨rfl, fun _ => .rfl⟩
  | faulty fault hlives hfaulty =>
    have hverdict : r'.traceVerdict bounds = _ := TraceWay.eq (.faulty fault hlives hfaulty)
    rw [hverdict]
    exact ⟨rfl, fun _ => by simp⟩
  | read document hlives hnone hread =>
    have hverdict : r'.traceVerdict bounds = _ := TraceWay.eq (.read document hlives hnone hread)
    rw [hverdict]
    exact ⟨rfl, fun _ => .rfl⟩
  | unreadable flaw hlives hnone hread =>
    have hverdict : r'.traceVerdict bounds = _ := TraceWay.eq (.unreadable flaw hlives hnone hread)
    rw [hverdict]
    exact ⟨rfl, fun _ => by simp⟩

end

/-! ## What is looked at -/

/-- Where the error of a query comes from: the deadline, a fault, or what the engine said, and then it is trimmed. -/
def QueryError (r : Report) (bounds : Bounds) (error : String) : Prop :=
  (r.killedByTimeout = true ∧ error = timeoutError "Query execution" bounds) ∨
  (r.killedByTimeout = false ∧ Text.allBlank r.stderr = true ∧
    ∃ fault, r.fault = some fault ∧ error = faultLead ++ fault.message) ∨
  (r.killedByTimeout = false ∧ Text.allBlank r.stderr = false ∧
    error = Text.trim r.stderr ∧ Text.trim error = error)

/-- What the verdicts on a report look at. -/
structure VerdictSources (r : Report) (bounds : Bounds) : Prop where
  /-- Blanks around what was printed do not count for a query. -/
  padding : ∀ a b c d, Text.allBlank a = true → Text.allBlank b = true → Text.allBlank c = true →
    Text.allBlank d = true →
    ({ r with stdout := a ++ r.stdout ++ b, stderr := c ++ r.stderr ++ d } : Report).queryVerdict bounds =
      r.queryVerdict bounds
  /-- A result is what was printed, trimmed. -/
  result : ∀ text, r.queryVerdict bounds = .result text → text = Text.trim r.stdout ∧ Text.trim text = text
  /-- The error of a query has one of three sources. It is never empty. -/
  queryError : ∀ error, (r.queryVerdict bounds).error? = some error → r.QueryError bounds error ∧ error ≠ ""
  /-- What was printed is not looked at for a query unless the run ended cleanly and said nothing else. -/
  queryStdout : r.killedByTimeout = true ∨ r.fault ≠ none ∨ Text.allBlank r.stderr = false →
    ∀ stdout, ({ r with stdout := stdout } : Report).queryVerdict bounds = r.queryVerdict bounds
  /-- All runs that were killed have the same verdict as queries. -/
  queryKilled : r.killedByTimeout = true →
    ∀ r' : Report, r'.killedByTimeout = true → r'.queryVerdict bounds = r.queryVerdict bounds
  /-- The second channel does not decide whether there is a trace, nor which. -/
  traceStderr : ∀ stderr, let r' : Report := { r with stderr := stderr }
    (r'.traceVerdict bounds).isSuccess = (r.traceVerdict bounds).isSuccess ∧
      ∀ document, r'.traceVerdict bounds = .trace document ↔ r.traceVerdict bounds = .trace document
  /-- What was printed is not looked at for a trace when the run was killed or has a fault. -/
  traceStdout : r.killedByTimeout = true ∨ r.fault ≠ none →
    ∀ stdout, ({ r with stdout := stdout } : Report).traceVerdict bounds = r.traceVerdict bounds
  /-- Output that holds no trace is quoted as it is, and so is the second channel. -/
  traceUnreadable : r.killedByTimeout = false → r.fault = none → ∀ flaw, Trace.ofOutput r.stdout = .error flaw →
    r.traceVerdict bounds = .traceFailure Trace.unreadable (some r.stdout) (some r.stderr)
  /-- The error of a diagnostic is never empty. -/
  traceError : ∀ error, (r.traceVerdict bounds).error? = some error → error ≠ ""

/-- The error of a query has one of three sources, and is never empty. -/
theorem queryError_of_error? {r : Report} {bounds : Bounds} {error : String}
    (h : (r.queryVerdict bounds).error? = some error) : r.QueryError bounds error ∧ error ≠ "" := by
  have hway := r.queryWay bounds
  generalize r.queryVerdict bounds = reply at hway h
  cases hway with
  | late hkilled =>
    obtain rfl := Option.some.inj h
    exact ⟨.inl ⟨hkilled, rfl⟩, timeoutError_ne_empty (by decide) bounds⟩
  | said hlives hsaid =>
    obtain rfl := Option.some.inj h
    refine ⟨.inr (.inr ⟨hlives, hsaid, rfl, Text.trim_trim _⟩), fun hnone => ?_⟩
    rw [Text.trim_eq_empty_iff, hsaid] at hnone
    cases hnone
  | faulty fault hlives hsilent hfaulty =>
    obtain rfl := Option.some.inj h
    exact ⟨.inr (.inl ⟨hlives, hsilent, fault, hfaulty, rfl⟩), faultLead_ne_empty fault⟩
  | clean => cases h

/-- The error of a diagnostic is never empty. -/
theorem traceError_ne_empty {r : Report} {bounds : Bounds} {error : String}
    (h : (r.traceVerdict bounds).error? = some error) : error ≠ "" := by
  have hway := r.traceWay bounds
  generalize r.traceVerdict bounds = reply at hway h
  cases hway with
  | late =>
    obtain rfl := Option.some.inj h
    exact timeoutError_ne_empty (by decide) bounds
  | faulty fault =>
    obtain rfl := Option.some.inj h
    exact faultLead_ne_empty fault
  | read => cases h
  | unreadable =>
    obtain rfl := Option.some.inj h
    decide

/-- What a verdict looks at, and that it is never an empty error. -/
theorem verdict_sources (r : Report) (bounds : Bounds) : VerdictSources r bounds where
  padding a b c d ha hb hc hd :=
    queryVerdict_congr rfl rfl (Text.trim_padded ha hb r.stdout) (Text.trim_padded hc hd r.stderr)
  result text htext := by
    have hway := r.queryWay bounds
    rw [htext] at hway
    cases hway with
    | clean => exact ⟨rfl, Text.trim_trim _⟩
  queryError error := queryError_of_error?
  queryStdout := queryVerdict_stdout
  queryKilled hkilled r' hkilled' := by rw [QueryWay.eq (.late hkilled'), QueryWay.eq (.late hkilled)]
  traceStderr := traceVerdict_stderr r bounds
  traceStdout := traceVerdict_stdout
  traceUnreadable hlives hnone flaw hread := TraceWay.eq (.unreadable flaw hlives hnone hread)
  traceError error := traceError_ne_empty

/-- An engine that ends cleanly and says only a zero width space, which is no blank, and a line break: its output is not
looked at, and the space is the error. -/
example : ({ stdout := "42", stderr := "\u200b\n" } : Report).queryVerdict .standard = .failure "\u200b" :=
  rfl

end Report
end QueryGateway
