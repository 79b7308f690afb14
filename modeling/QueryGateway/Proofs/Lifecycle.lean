import QueryGateway.Gateway.Bench
import QueryGateway.Proofs.Floor

/-!
# What a request does from beginning to end

The deeds of a request form one of six words (`Word`), whatever the others do meanwhile and whatever the ports answer:
it does nothing before it was found fit to run, asks for its input at most once, runs its engine at most once, and
gets rid of its input exactly once and last. `Trail` says for each stage which deeds lie behind a request that stands
there; every step goes on from there (`trail_advance`, `trail_drop`), so that what is finished has gone one of the
words.
-/

namespace QueryGateway

/-! ## The words -/

/-- A submission that may be run: it has a query, and the visualization engine was found if it is needed. -/
def Fit (engine : Engine) (submission : Submission) (found : Bool) (query : Query) : Prop :=
  submission.validate = .ok query ∧ (engine = .visualization → found = true)

/-- The ways in which a request may go: its deeds, and what it comes to. -/
inductive Word (engines : Engines) (engine : Engine) (submission : Submission) (found : Bool) :
    List Deed → Outcome → Prop where
  /-- A submission that is refused leads to nothing. -/
  | refused (refusal : Refusal) : submission.validate = .error refusal →
      Word engines engine submission found [] (.failed (.refused refusal))
  /-- Neither does a trace that nobody could draw. -/
  | unavailable (query : Query) : submission.validate = .ok query → engine = .visualization → found = false →
      Word engines engine submission found [] (.replied (.bareTraceFailure Stage.visualizationUnavailable))
  /-- Without its input a request ends, and no engine runs. -/
  | storeFailed (query : Query) (id : String) (fault : StoreFault) : Fit engine submission found query →
      Word engines engine submission found [.drew id, .refusedInput id query.document fault] (.failed (.store fault))
  /-- A run that ends with a report is judged. -/
  | answered (query : Query) (id : String) (lease : Lease) (report : Report) : Fit engine submission found query →
      Word engines engine submission found
        [.drew id, .acquired id query.document lease,
          .invoked (engines.call engine query.expression lease.path) (.finished report), .ended, .released lease]
        (.replied (report.verdict engine engines.bounds))
  /-- A run that crashes is told with its message. -/
  | crashed (query : Query) (id : String) (lease : Lease) (payload : Payload) : Fit engine submission found query →
      Word engines engine submission found
        [.drew id, .acquired id query.document lease,
          .invoked (engines.call engine query.expression lease.path) (.crashed payload), .ended, .released lease]
        (.failed (.crashed payload.message))
  /-- A request that is dropped while its engine runs drops its input. -/
  | dropped (query : Query) (id : String) (lease : Lease) (run : Run) : Fit engine submission found query →
      Word engines engine submission found
        [.drew id, .acquired id query.document lease,
          .invoked (engines.call engine query.expression lease.path) run, .discarded lease]
        .cancelled

section
variable {engines : Engines} {engine : Engine} {submission : Submission} {found : Bool}

/-- A run that ends is followed by its end, the release of the input, and the outcome of the run. -/
theorem Word.of_outcomeOf {query : Query} {id : String} {lease : Lease} {run : Run} {outcome : Outcome}
    (hfit : Fit engine submission found query) (hrun : Stage.outcomeOf engines engine run = some outcome) :
    Word engines engine submission found
      [.drew id, .acquired id query.document lease,
        .invoked (engines.call engine query.expression lease.path) run, .ended, .released lease] outcome := by
  cases run with
  | finished report =>
    obtain rfl := Option.some.inj hrun
    exact .answered query id lease report hfit
  | crashed payload =>
    obtain rfl := Option.some.inj hrun
    exact .crashed query id lease payload hfit
  | hanging => nomatch hrun

/-! ## The trail of a request -/

variable (engines engine submission found) in
/-- What lies behind a request, by its stage. -/
inductive Trail : List Deed → Stage → Prop where
  | submitted : found = true → Trail [] (.submitted engine submission)
  | admitted (query : Query) : Fit engine submission found query → Trail [] (.admitted engine query)
  | named (query : Query) (id : String) : Fit engine submission found query → Trail [.drew id] (.named engine query id)
  | holding (query : Query) (id : String) (lease : Lease) : Fit engine submission found query →
      Trail [.drew id, .acquired id query.document lease] (.holding engine query lease)
  | running (query : Query) (id : String) (lease : Lease) (run : Run) : Fit engine submission found query →
      Trail [.drew id, .acquired id query.document lease,
        .invoked (engines.call engine query.expression lease.path) run] (.running engine lease run)
  | settled (query : Query) (id : String) (lease : Lease) (run : Run) (outcome : Outcome) :
      Fit engine submission found query → Stage.outcomeOf engines engine run = some outcome →
      Trail [.drew id, .acquired id query.document lease,
        .invoked (engines.call engine query.expression lease.path) run, .ended] (.settled lease outcome)
  | finished (deeds : List Deed) (outcome : Outcome) : Word engines engine submission found deeds outcome →
      Trail deeds (.finished outcome)

end

namespace Request

variable {σ : Type} (ports : Ports σ) (engines : Engines)

/-- The deeds of a request lead to where it stands. -/
def OnTrail (r : Request) : Prop :=
  Trail engines r.engine r.submission r.found r.deeds r.stage

/-- A new request has done nothing. -/
theorem trail_sent (engine : Engine) (submission : Submission) : (sent engine submission).OnTrail engines :=
  .submitted rfl

/-- A step goes on from where the trail is. -/
theorem trail_advance (r : Request) (s : σ) (h : r.OnTrail engines) :
    (r.advance ports engines s).1.OnTrail engines := by
  obtain ⟨engine, submission, stage, deeds, found⟩ := r
  change Trail engines engine submission found deeds stage at h
  unfold OnTrail
  cases h with
  | submitted hfound =>
    simp only [advance, Stage.advance]
    cases hv : submission.validate with
    | error refusal => exact .finished _ _ (.refused refusal hv)
    | ok query =>
      have hsame : ports.recorded.available (s, []) engines.visualization =
          ports.available s engines.visualization := rfl
      simp only [hsame]
      split
      · rename_i hmissing
        exact .finished _ _ (.unavailable query hv hmissing.1 (by simpa using hmissing.2))
      · rename_i hfit
        refine .admitted query ⟨hv, fun he => ?_⟩
        simpa [he] using hfit
  | admitted query hfit => exact .named query _ hfit
  | named query id hfit =>
    simp only [advance, Stage.advance, Ports.recorded]
    rcases ports.acquire id query.document s with ⟨fault | lease, s'⟩
    · exact .finished _ _ (.storeFailed query id fault hfit)
    · exact .holding query id lease hfit
  | holding query id lease hfit => exact .running query id lease _ hfit
  | running query id lease run hfit =>
    simp only [advance, Stage.advance]
    split
    · rename_i outcome hrun
      exact .settled query id lease run outcome hfit hrun
    · exact .running query id lease run hfit
  | settled query id lease run outcome hfit hrun => exact .finished _ _ (.of_outcomeOf hfit hrun)
  | finished deeds outcome hword =>
    simp only [advance, Stage.advance, Stage.ending, List.append_nil]
    exact .finished _ _ hword

/-- Only a request whose engine runs can be dropped, and that ends its trail. -/
theorem trail_drop (r : Request) (s : σ) (h : r.OnTrail engines) : (r.drop ports s).1.OnTrail engines := by
  obtain ⟨engine, submission, stage, deeds, found⟩ := r
  change Trail engines engine submission found deeds stage at h
  unfold OnTrail
  cases h with
  | running query id lease run hfit => exact .finished _ _ (.dropped query id lease run hfit)
  | submitted hfound => exact .submitted hfound
  | admitted query hfit => exact .admitted query hfit
  | named query id hfit => exact .named query id hfit
  | holding query id lease hfit => exact .holding query id lease hfit
  | settled query id lease run outcome hfit hrun => exact .settled query id lease run outcome hfit hrun
  | finished deeds outcome hword => exact .finished _ _ hword

end Request

/-- Whoever is on a trail can come to the end of a word. -/
theorem Trail.completes {engines : Engines} {engine : Engine} {submission : Submission} {found : Bool}
    {deeds : List Deed} {stage : Stage} (h : Trail engines engine submission found deeds stage) :
    ∃ rest outcome, Word engines engine submission found (deeds ++ rest) outcome := by
  cases h with
  | submitted hfound =>
    cases hv : submission.validate with
    | error refusal => exact ⟨[], _, .refused refusal hv⟩
    | ok query => exact ⟨_, _, .storeFailed query "" (.unsafeId "") ⟨hv, fun _ => hfound⟩⟩
  | admitted query hfit => exact ⟨_, _, .storeFailed query "" (.unsafeId "") hfit⟩
  | named query id hfit => exact ⟨[_], _, .storeFailed query id (.unsafeId id) hfit⟩
  | holding query id lease hfit => exact ⟨[_, _], _, .dropped query id lease .hanging hfit⟩
  | running query id lease run hfit => exact ⟨[_], _, .dropped query id lease run hfit⟩
  | settled query id lease run outcome hfit hrun => exact ⟨[_], _, .of_outcomeOf hfit hrun⟩
  | finished deeds outcome hword => exact ⟨[], outcome, by simpa using hword⟩

/-- Whoever is finished has gone a word. -/
theorem Trail.word {engines : Engines} {engine : Engine} {submission : Submission} {found : Bool} {deeds : List Deed}
    {outcome : Outcome} (h : Trail engines engine submission found deeds (.finished outcome)) :
    Word engines engine submission found deeds outcome := by
  cases h with
  | finished _ _ hword => exact hword

/-! ## How long it takes -/

/-- How many steps a request can still take. -/
def Stage.left : Stage → Nat
  | submitted _ _ => 6
  | admitted _ _ => 5
  | named _ _ _ => 4
  | holding _ _ _ => 3
  | running _ _ .hanging => 0
  | running _ _ _ => 2
  | settled _ _ => 1
  | finished _ => 0

/-- A new request can take as many steps as any. -/
theorem Stage.left_le_mostSteps (stage : Stage) : stage.left ≤ mostSteps := by
  unfold left
  split <;> decide

/-- No step is left where a request is over or its run hangs. -/
theorem Stage.left_eq_zero_iff {stage : Stage} :
    stage.left = 0 ↔
      (∃ outcome, stage = .finished outcome) ∨ ∃ engine lease, stage = .running engine lease .hanging := by
  cases stage with
  | running engine lease run => cases run <;> simp [left]
  | finished outcome => simp [left]
  | _ => simp [left]

/-- A step is one step less that is left. -/
theorem Stage.left_advance {σ : Type} (ports : Ports σ) (engines : Engines) (stage : Stage) (s : σ) :
    (stage.advance ports engines s).1.left ≤ stage.left - 1 := by
  cases stage with
  | submitted engine submission =>
    simp only [advance]
    split
    · simp [left]
    · split <;> simp [left]
  | admitted engine query => simp [advance, left]
  | named engine query id =>
    simp only [advance]
    split <;> simp [left]
  | holding engine query lease =>
    simp only [advance]
    cases (ports.invoke (engines.call engine query.expression lease.path) s).1 <;> simp [left]
  | running engine lease run => cases run <;> simp [advance, outcomeOf, left]
  | settled lease outcome => simp [advance, left]
  | finished outcome => simp [advance, left]

namespace Floor

variable {σ : Type} (ports : Ports σ) (engines : Engines)

/-- After any moves every request is on its trail. -/
theorem onTrail_run (world : σ) (moves : List Move) :
    ∀ r ∈ (run ports engines { world := world } moves).requests, r.OnTrail engines :=
  forall_requests (Request.trail_sent engines) (Request.trail_advance ports engines)
    (Request.trail_drop ports engines) moves (by simp)

/-- A request that is there and takes all its steps comes to rest. -/
theorem advance_to_rest (i : Nat) (n : Nat) : ∀ (f : Floor σ) (r : Request), f.requests[i]? = some r →
    r.stage.left ≤ n → ∃ r', (run ports engines f (List.replicate n (.advance i))).requests[i]? = some r' ∧
      r'.stage.left = 0 := by
  induction n with
  | zero => intro f r hr hleft; exact ⟨r, hr, by omega⟩
  | succ n ih =>
    intro f r hr hleft
    have hstep := Stage.left_advance ports.recorded engines r.stage (f.world, r.deeds)
    refine ih (f.act i (Request.advance ports engines)) (r.advance ports engines f.world).1 ?_ ?_
    · simp only [act, hr]
      exact List.getElem?_set_self (List.getElem?_eq_some_iff.1 hr).1
    · exact Nat.le_trans hstep (by omega)

/-- After any moves a request that is finished has gone a word, any other can still go one, and six steps more bring it
to its end unless its run hangs. -/
theorem request_word (world : σ) (moves : List Move) (i : Nat) (r : Request)
    (h : (run ports engines { world := world } moves).requests[i]? = some r) :
    (∀ outcome, r.stage = .finished outcome → Word engines r.engine r.submission r.found r.deeds outcome) ∧
      (∃ rest outcome, Word engines r.engine r.submission r.found (r.deeds ++ rest) outcome) ∧
      ∃ r', (run ports engines { world := world } (moves ++ List.replicate Stage.mostSteps (.advance i))).requests[i]? =
          some r' ∧
        ((∃ outcome, r'.stage = .finished outcome) ∨ ∃ engine lease, r'.stage = .running engine lease .hanging) := by
  have htrail : r.OnTrail engines := onTrail_run ports engines world moves r (List.mem_of_getElem? h)
  refine ⟨?_, htrail.completes, ?_⟩
  · intro outcome hdone
    rw [Request.OnTrail, hdone] at htrail
    exact htrail.word
  · obtain ⟨r', hr', hrest⟩ := advance_to_rest ports engines i Stage.mostSteps _ r h r.stage.left_le_mostSteps
    rw [run_append]
    exact ⟨r', hr', Stage.left_eq_zero_iff.1 hrest⟩

/-- Two requests at once: the engine of the first hangs, and it is dropped while the second is being answered. -/
theorem request_word_dropped :
    (run Script.ports ⟨.ofString "jqlite", .ofString "viz", .standard⟩
        { world := { names := { given := ["a", "b"] },
                     engines := { endings := [.hanging, .finished (.exited "42" "")] } } }
        [.arrive .query ⟨some "[]", some "."⟩, .arrive .query ⟨some "42", some "."⟩, .advance 0, .advance 1, .advance 0,
          .advance 0, .advance 1, .advance 0, .advance 1, .advance 0, .advance 1, .drop 0, .advance 1]).requests[0]? =
        some { engine := .query, submission := ⟨some "[]", some "."⟩, stage := .finished .cancelled,
               deeds := [.drew "a", .acquired "a" "[]" ⟨"a", Ledger.pathFor "a", false⟩,
                 .invoked ⟨.ofString "jqlite", [".", (Ledger.pathFor "a").display], .standard⟩ .hanging,
                 .discarded ⟨"a", Ledger.pathFor "a", false⟩] } ∧
      Word ⟨.ofString "jqlite", .ofString "viz", .standard⟩ .query ⟨some "[]", some "."⟩ true
        [.drew "a", .acquired "a" "[]" ⟨"a", Ledger.pathFor "a", false⟩,
          .invoked ⟨.ofString "jqlite", [".", (Ledger.pathFor "a").display], .standard⟩ .hanging,
          .discarded ⟨"a", Ledger.pathFor "a", false⟩] .cancelled :=
  (and_iff_left_of_imp fun h => (request_word Script.ports _ _ _ 0 _ h).1 _ rfl).2 rfl

end Floor

end QueryGateway
