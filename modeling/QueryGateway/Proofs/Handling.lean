import QueryGateway.Proofs.Lifecycle

/-!
# From end to end

A submission that is handled without a break goes one of six ways (`Handled`), told by what it comes to and by what was
done to the outside. Which one is settled step by step: whether it is refused, whether its engine can be found, whether
it gets its input, and how its run ends (`Ports.serve_refused` and those behind it). With the record of the ports it comes
to the same as without (`Ports.serve_recorded`), and so the record tells the way (`Ports.handled_serve`).
-/

namespace QueryGateway

variable {σ : Type}

/-! ## The ways -/

/-- The ways of a submission that is handled from end to end: what it comes to, and what was done to the outside. -/
inductive Handled (engines : Engines) (engine : Engine) (submission : Submission) (found : Bool) :
    Outcome → List Deed → Prop where
  | refused (refusal : Refusal) : submission.validate = .error refusal →
      Handled engines engine submission found (.failed (.refused refusal)) []
  | unavailable (query : Query) : submission.validate = .ok query → engine = .visualization → found = false →
      Handled engines engine submission found (.replied (.bareTraceFailure Stage.visualizationUnavailable)) []
  | storeFailed (query : Query) (id : String) (fault : StoreFault) : Fit engine submission found query →
      Handled engines engine submission found (.failed (.store fault))
        [.drew id, .refusedInput id query.document fault]
  | answered (query : Query) (id : String) (lease : Lease) (report : Report) : Fit engine submission found query →
      Handled engines engine submission found (.replied (report.verdict engine engines.bounds))
        [.drew id, .acquired id query.document lease,
          .invoked (engines.call engine query.expression lease.path) (.finished report), .released lease]
  | crashed (query : Query) (id : String) (lease : Lease) (payload : Payload) : Fit engine submission found query →
      Handled engines engine submission found (.failed (.crashed payload.message))
        [.drew id, .acquired id query.document lease,
          .invoked (engines.call engine query.expression lease.path) (.crashed payload), .released lease]
  | hanging (query : Query) (id : String) (lease : Lease) : Fit engine submission found query →
      Handled engines engine submission found .cancelled
        [.drew id, .acquired id query.document lease,
          .invoked (engines.call engine query.expression lease.path) .hanging, .discarded lease]

/-! ## Steps -/

section
variable (ports : Ports σ) (engines : Engines)

/-- The first step is taken before the others. -/
theorem Stage.advances_step {stage stage' : Stage} {s s' : σ} (h : stage.advance ports engines s = (stage', s'))
    (n : Nat) : stage.advances ports engines (n + 1) s = stage'.advances ports engines n s' := by
  simp only [advances, h]

/-- A request that is over stays as it is. -/
theorem Stage.advances_finished (outcome : Outcome) (s : σ) (n : Nat) :
    (finished outcome).advances ports engines n s = (finished outcome, s) := by
  induction n with
  | zero => rfl
  | succ n ih => exact (advances_step ports engines rfl n).trans ih

/-- A request whose run hangs stays where it is. -/
theorem Stage.advances_hanging (engine : Engine) (lease : Lease) (s : σ) (n : Nat) :
    (running engine lease .hanging).advances ports engines n s = (running engine lease .hanging, s) := by
  induction n with
  | zero => rfl
  | succ n ih => exact (advances_step ports engines rfl n).trans ih

/-- A request whose run ends gives back its input and comes to the outcome of the run. -/
theorem Stage.advances_running {engine : Engine} {run : Run} {outcome : Outcome}
    (h : outcomeOf engines engine run = some outcome) (lease : Lease) (s : σ) (n : Nat) :
    (running engine lease run).advances ports engines (n + 2) s = (finished outcome, ports.release lease s) := by
  have hsettled : (running engine lease run).advance ports engines s = (settled lease outcome, s) := by
    simp only [advance, h]
  rw [advances_step ports engines hsettled, advances_step ports engines rfl, advances_finished]

/-- Any steps do the same with and without the record. -/
theorem Stage.advances_recorded (n : Nat) (stage : Stage) (w : σ × List Deed) :
    stage.advances ports engines n w.1 =
      ((stage.advances ports.recorded engines n w).1, (stage.advances ports.recorded engines n w).2.1) := by
  induction n generalizing stage w with
  | zero => rfl
  | succ n ih =>
    rw [advances_step ports engines (stage.advance_recorded ports engines w), ih]
    rfl

/-- So does giving up. -/
theorem Stage.giveUp_recorded (stage : Stage) (w : σ × List Deed) :
    stage.giveUp ports w.1 = ((stage.giveUp ports.recorded w).1, (stage.giveUp ports.recorded w).2.1) := by
  cases stage <;> rfl

end

/-! ## Handling -/

namespace Ports

variable (ports : Ports σ) (engines : Engines) (engine : Engine) {submission : Submission} {s s' s'' : σ}

/-- A submission that is refused touches nothing. -/
theorem serve_refused {refusal : Refusal} (h : submission.validate = .error refusal) :
    ports.serve engines engine submission s = (.failed (.refused refusal), s) := by
  have hstep : Stage.advance ports engines (.submitted engine submission) s =
      (.finished (.failed (.refused refusal)), s) := by
    simp only [Stage.advance, h]
  have hsteps := (Stage.advances_step ports engines hstep 5).trans (Stage.advances_finished ports engines _ s 5)
  simp only [serve, Stage.mostSteps, hsteps]
  rfl

/-- Neither does a trace that nobody could draw. -/
theorem serve_unavailable {query : Query} (h : submission.validate = .ok query)
    (hmissing : ports.available s engines.visualization = false) :
    ports.serve engines .visualization submission s =
      (.replied (.bareTraceFailure Stage.visualizationUnavailable), s) := by
  have hstep : Stage.advance ports engines (.submitted .visualization submission) s =
      (.finished (.replied (.bareTraceFailure Stage.visualizationUnavailable)), s) := by
    simp [Stage.advance, h, hmissing]
  have hsteps := (Stage.advances_step ports engines hstep 5).trans (Stage.advances_finished ports engines _ s 5)
  simp only [serve, Stage.mostSteps, hsteps]
  rfl

section
variable {query : Query} (h : submission.validate = .ok query)
  (hfound : engine = .visualization → ports.available s engines.visualization = true)
include h hfound

/-- Any other submission is admitted and named with its first two steps. -/
theorem advances_fit (n : Nat) :
    Stage.advances ports engines (n + 2) (.submitted engine submission) s =
      Stage.advances ports engines n (.named engine query (ports.drawId s).1) (ports.drawId s).2 := by
  have hgate : ¬(engine = .visualization ∧ (!ports.available s engines.visualization) = true) := by
    rintro ⟨hengine, hmissing⟩
    simp [hfound hengine] at hmissing
  have hstep : Stage.advance ports engines (.submitted engine submission) s = (.admitted engine query, s) := by
    simp only [Stage.advance, h, hgate, if_false]
  rw [Stage.advances_step ports engines hstep, Stage.advances_step ports engines rfl]

/-- Without its input it comes to the fault of the store. -/
theorem serve_storeFailed {fault : StoreFault}
    (hacquire : ports.acquire (ports.drawId s).1 query.document (ports.drawId s).2 = (.error fault, s')) :
    ports.serve engines engine submission s = (.failed (.store fault), s') := by
  have hstep : Stage.advance ports engines (.named engine query (ports.drawId s).1) (ports.drawId s).2 =
      (.finished (.failed (.store fault)), s') := by
    simp only [Stage.advance, hacquire]
  have hsteps := (advances_fit ports engines engine h hfound 4).trans
    ((Stage.advances_step ports engines hstep 3).trans (Stage.advances_finished ports engines _ s' 3))
  simp only [serve, Stage.mostSteps, hsteps]
  rfl

/-- With its input its engine is run. -/
theorem advances_run {lease : Lease} {run : Run}
    (hacquire : ports.acquire (ports.drawId s).1 query.document (ports.drawId s).2 = (.ok lease, s'))
    (hinvoke : ports.invoke (engines.call engine query.expression lease.path) s' = (run, s'')) :
    Stage.advances ports engines 6 (.submitted engine submission) s =
      Stage.advances ports engines 2 (.running engine lease run) s'' := by
  have hholding : Stage.advance ports engines (.named engine query (ports.drawId s).1) (ports.drawId s).2 =
      (.holding engine query lease, s') := by
    simp only [Stage.advance, hacquire]
  have hrunning : Stage.advance ports engines (.holding engine query lease) s' = (.running engine lease run, s'') := by
    simp only [Stage.advance, hinvoke]
  exact (advances_fit ports engines engine h hfound 4).trans
    ((Stage.advances_step ports engines hholding 3).trans (Stage.advances_step ports engines hrunning 2))

/-- A run that ends decides what it comes to, and the input is given back. -/
theorem serve_ended {lease : Lease} {run : Run} {outcome : Outcome}
    (hacquire : ports.acquire (ports.drawId s).1 query.document (ports.drawId s).2 = (.ok lease, s'))
    (hinvoke : ports.invoke (engines.call engine query.expression lease.path) s' = (run, s''))
    (hrun : Stage.outcomeOf engines engine run = some outcome) :
    ports.serve engines engine submission s = (outcome, ports.release lease s'') := by
  have hsteps := (advances_run ports engines engine h hfound hacquire hinvoke).trans
    (Stage.advances_running ports engines hrun lease s'' 0)
  simp only [serve, Stage.mostSteps, hsteps]
  rfl

/-- A run that hangs is given up, and the input is dropped. -/
theorem serve_hanging {lease : Lease}
    (hacquire : ports.acquire (ports.drawId s).1 query.document (ports.drawId s).2 = (.ok lease, s'))
    (hinvoke : ports.invoke (engines.call engine query.expression lease.path) s' = (.hanging, s'')) :
    ports.serve engines engine submission s = (.cancelled, ports.discard lease s'') := by
  have hsteps := (advances_run ports engines engine h hfound hacquire hinvoke).trans
    (Stage.advances_hanging ports engines engine lease s'' 2)
  simp only [serve, Stage.mostSteps, hsteps]
  rfl

end

/-! ## The record of a handling -/

/-- The record shows an input that was not provided. -/
theorem recorded_acquire_error {id document : String} {fault : StoreFault}
    (h : ports.acquire id document s = (.error fault, s')) (deeds : List Deed) :
    ports.recorded.acquire id document (s, deeds) = (.error fault, (s', deeds ++ [.refusedInput id document fault])) := by
  simp only [recorded, h]

/-- The record shows an input that was provided. -/
theorem recorded_acquire_ok {id document : String} {lease : Lease}
    (h : ports.acquire id document s = (.ok lease, s')) (deeds : List Deed) :
    ports.recorded.acquire id document (s, deeds) = (.ok lease, (s', deeds ++ [.acquired id document lease])) := by
  simp only [recorded, h]

section
variable {query : Query} (h : submission.validate = .ok query)
  (hfound : engine = .visualization → ports.available s engines.visualization = true)
include h hfound

/-- A query without its input was named and asked for its input with its own document, and nothing else was done. -/
theorem deeds_of_refusedInput {fault : StoreFault}
    (hacquire : ports.acquire (ports.drawId s).1 query.document (ports.drawId s).2 = (.error fault, s')) :
    (ports.recorded.serve engines engine submission (s, [])).2.2 =
      [.drew (ports.drawId s).1, .refusedInput (ports.drawId s).1 query.document fault] := by
  have hacquire' := ports.recorded_acquire_error hacquire [.drew (ports.drawId s).1]
  rw [serve_storeFailed ports.recorded engines engine (s := (s, [])) h hfound hacquire']
  rfl

/-- With its input its engine is called on it once, on the outside as it is then, and the last that is done is to get
rid of the input. -/
theorem deeds_of_acquired {lease : Lease}
    (hacquire : ports.acquire (ports.drawId s).1 query.document (ports.drawId s).2 = (.ok lease, s')) :
    ∃ last, (ports.recorded.serve engines engine submission (s, [])).2.2 =
      [.drew (ports.drawId s).1, .acquired (ports.drawId s).1 query.document lease,
        .invoked (engines.call engine query.expression lease.path)
          (ports.invoke (engines.call engine query.expression lease.path) s').1, last] := by
  have hacquire' := ports.recorded_acquire_ok hacquire [.drew (ports.drawId s).1]
  rcases hinvoke : ports.recorded.invoke (engines.call engine query.expression lease.path)
    (s', [.drew (ports.drawId s).1, .acquired (ports.drawId s).1 query.document lease]) with ⟨run, w⟩
  have hdeeds : [.drew (ports.drawId s).1, .acquired (ports.drawId s).1 query.document lease,
      .invoked (engines.call engine query.expression lease.path)
        (ports.invoke (engines.call engine query.expression lease.path) s').1] = w.2 :=
    congrArg (fun called => called.2.2) hinvoke
  cases hends : Stage.outcomeOf engines engine run with
  | some outcome =>
    rw [serve_ended ports.recorded engines engine (s := (s, [])) h hfound hacquire' hinvoke hends]
    refine ⟨.released lease, ?_⟩
    change w.2 ++ [.released lease] = _
    rw [← hdeeds]
    rfl
  | none =>
    obtain rfl : run = .hanging := by
      cases run with
      | hanging => rfl
      | _ => nomatch hends
    rw [serve_hanging ports.recorded engines engine (s := (s, [])) h hfound hacquire' hinvoke]
    refine ⟨.discarded lease, ?_⟩
    change w.2 ++ [.discarded lease] = _
    rw [← hdeeds]
    rfl

end

/-- A submission comes to the same, and to the same outside, with and without the record. -/
theorem serve_recorded (submission : Submission) (w : σ × List Deed) :
    ports.serve engines engine submission w.1 =
      ((ports.recorded.serve engines engine submission w).1, (ports.recorded.serve engines engine submission w).2.1) := by
  simp only [serve, Stage.advances_recorded ports engines Stage.mostSteps _ w, Stage.giveUp_recorded ports]

/-- With the record a submission goes one of the ways, and the record tells which. -/
theorem handled_recorded (submission : Submission) (s : σ) :
    ∃ outcome deeds s', Handled engines engine submission (ports.available s engines.visualization) outcome deeds ∧
      ports.recorded.serve engines engine submission (s, []) = (outcome, (s', deeds)) := by
  cases hvalid : submission.validate with
  | error refusal =>
    rw [serve_refused ports.recorded engines engine hvalid]
    exact ⟨_, _, _, .refused refusal hvalid, rfl⟩
  | ok query =>
    by_cases hfound : engine = .visualization → ports.available s engines.visualization = true
    · have hfound' : engine = .visualization → ports.recorded.available (s, []) engines.visualization = true := hfound
      rcases hacquire : ports.acquire (ports.drawId s).1 query.document (ports.drawId s).2 with ⟨fault | lease, s'⟩
      · have hacquire' := ports.recorded_acquire_error hacquire [.drew (ports.drawId s).1]
        rw [serve_storeFailed ports.recorded engines engine (s := (s, [])) hvalid hfound' hacquire']
        exact ⟨_, _, _, .storeFailed query _ fault ⟨hvalid, hfound⟩, rfl⟩
      · have hacquire' := ports.recorded_acquire_ok hacquire [.drew (ports.drawId s).1]
        rcases hinvoke : ports.invoke (engines.call engine query.expression lease.path) s' with ⟨run, s''⟩
        have hinvoke' : ports.recorded.invoke (engines.call engine query.expression lease.path)
            (s', [.drew (ports.drawId s).1, .acquired (ports.drawId s).1 query.document lease]) =
            (run, (s'', [.drew (ports.drawId s).1, .acquired (ports.drawId s).1 query.document lease,
              .invoked (engines.call engine query.expression lease.path) run])) := by
          simp only [recorded, hinvoke]
          rfl
        cases run with
        | finished report =>
          rw [serve_ended ports.recorded engines engine (s := (s, [])) hvalid hfound' hacquire' hinvoke' rfl]
          exact ⟨_, _, _, .answered query _ lease report ⟨hvalid, hfound⟩, rfl⟩
        | crashed payload =>
          rw [serve_ended ports.recorded engines engine (s := (s, [])) hvalid hfound' hacquire' hinvoke' rfl]
          exact ⟨_, _, _, .crashed query _ lease payload ⟨hvalid, hfound⟩, rfl⟩
        | hanging =>
          rw [serve_hanging ports.recorded engines engine (s := (s, [])) hvalid hfound' hacquire' hinvoke']
          exact ⟨_, _, _, .hanging query _ lease ⟨hvalid, hfound⟩, rfl⟩
    · obtain ⟨rfl, hmissing⟩ : engine = .visualization ∧ ports.available s engines.visualization = false := by
        simpa using hfound
      rw [serve_unavailable ports.recorded engines (s := (s, [])) hvalid hmissing]
      exact ⟨_, _, _, .unavailable query hvalid rfl hmissing, rfl⟩

/-- A submission that is handled from end to end goes one of the ways, which the record of the ports tells. -/
theorem handled_serve (submission : Submission) (s : σ) :
    ∃ outcome deeds, Handled engines engine submission (ports.available s engines.visualization) outcome deeds ∧
      (ports.serve engines engine submission s).1 = outcome ∧
      ports.recorded.serve engines engine submission (s, []) =
        (outcome, ((ports.serve engines engine submission s).2, deeds)) := by
  obtain ⟨outcome, deeds, s', hhandled, hserve⟩ := ports.handled_recorded engines engine submission s
  have hplain := ports.serve_recorded engines engine submission (s, [])
  rw [hserve] at hplain
  exact ⟨outcome, deeds, hhandled, congrArg Prod.fst hplain, by rw [hserve, hplain]⟩

end Ports

end QueryGateway
