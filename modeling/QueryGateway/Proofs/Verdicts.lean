import QueryGateway.Answer.Verdict
import QueryGateway.Proofs.Trimming

/-!
# The ways of a verdict

Each verdict comes about in one of four ways, and each way names the parts of the report that it looks at
(`Report.queryWay`, `Report.traceWay`). A way that is open leads to the verdict (`Report.QueryWay.eq`,
`Report.TraceWay.eq`), so that nothing else has to look into how verdicts are passed.
-/

namespace QueryGateway
namespace Report

/-- The ways in which the verdict on a run of the query engine comes about. -/
inductive QueryWay (r : Report) (bounds : Bounds) : Reply → Prop where
  | late : r.killedByTimeout = true → QueryWay r bounds (.failure (timeoutError "Query execution" bounds))
  | said : r.killedByTimeout = false → Text.allBlank r.stderr = false →
      QueryWay r bounds (.failure (Text.trim r.stderr))
  | faulty (fault : Fault) : r.killedByTimeout = false → Text.allBlank r.stderr = true → r.fault = some fault →
      QueryWay r bounds (.failure (faultLead ++ fault.message))
  | clean : r.killedByTimeout = false → Text.allBlank r.stderr = true → r.fault = none →
      QueryWay r bounds (.result (Text.trim r.stdout))

/-- The ways in which the verdict on a run of the visualization engine comes about. -/
inductive TraceWay (r : Report) (bounds : Bounds) : Reply → Prop where
  | late : r.killedByTimeout = true → TraceWay r bounds (.bareTraceFailure (timeoutError "Visualization" bounds))
  | faulty (fault : Fault) : r.killedByTimeout = false → r.fault = some fault →
      TraceWay r bounds (.traceFailure (faultLead ++ fault.message) none (some r.stderr))
  | read (document : Json.Value) : r.killedByTimeout = false → r.fault = none →
      Trace.ofOutput r.stdout = .ok document → TraceWay r bounds (.trace document)
  | unreadable (flaw : Json.Flaw) : r.killedByTimeout = false → r.fault = none →
      Trace.ofOutput r.stdout = .error flaw →
      TraceWay r bounds (.traceFailure Trace.unreadable (some r.stdout) (some r.stderr))

section
variable {r : Report} {bounds : Bounds} {reply : Reply}

/-- A way that is open leads to the verdict. -/
theorem QueryWay.eq (h : QueryWay r bounds reply) : r.queryVerdict bounds = reply := by
  unfold queryVerdict
  cases h with
  | late hkilled => rw [if_pos hkilled]
  | said hlives hsaid =>
    have hne : Text.trim r.stderr ≠ "" := by simp [Text.trim_eq_empty_iff, hsaid]
    simp [hlives, hne]
  | faulty fault hlives hblank hfault => simp [hlives, (Text.trim_eq_empty_iff _).2 hblank, hfault]
  | clean hlives hblank hfault => simp [hlives, (Text.trim_eq_empty_iff _).2 hblank, hfault]

/-- One of the ways is open. -/
theorem queryWay (r : Report) (bounds : Bounds) : QueryWay r bounds (r.queryVerdict bounds) := by
  have hopen : ∃ reply, QueryWay r bounds reply := by
    cases hkilled : r.killedByTimeout with
    | true => exact ⟨_, .late hkilled⟩
    | false =>
      cases hblank : Text.allBlank r.stderr with
      | false => exact ⟨_, .said hkilled hblank⟩
      | true =>
        cases hfault : r.fault with
        | some fault => exact ⟨_, .faulty fault hkilled hblank hfault⟩
        | none => exact ⟨_, .clean hkilled hblank hfault⟩
  obtain ⟨reply, h⟩ := hopen
  rwa [h.eq]

/-- A way that is open leads to the verdict. -/
theorem TraceWay.eq (h : TraceWay r bounds reply) : r.traceVerdict bounds = reply := by
  unfold traceVerdict
  cases h with
  | late hkilled => rw [if_pos hkilled]
  | faulty fault hlives hfault => simp [hlives, hfault]
  | read document hlives hfault hread => simp [hlives, hfault, Trace.reply, hread]
  | unreadable flaw hlives hfault hread => simp [hlives, hfault, Trace.reply, hread, Trace.diagnostic]

/-- One of the ways is open. -/
theorem traceWay (r : Report) (bounds : Bounds) : TraceWay r bounds (r.traceVerdict bounds) := by
  have hopen : ∃ reply, TraceWay r bounds reply := by
    cases hkilled : r.killedByTimeout with
    | true => exact ⟨_, .late hkilled⟩
    | false =>
      cases hfault : r.fault with
      | some fault => exact ⟨_, .faulty fault hkilled hfault⟩
      | none =>
        cases hread : Trace.ofOutput r.stdout with
        | ok document => exact ⟨_, .read document hkilled hfault hread⟩
        | error flaw => exact ⟨_, .unreadable flaw hkilled hfault hread⟩
  obtain ⟨reply, h⟩ := hopen
  rwa [h.eq]

end
end Report
end QueryGateway
