import QueryGateway.Proofs.Handover
import QueryGateway.Proofs.PipeRace

/-!
# One limit for two channels

Both channels of a run share one limit. An intake keeps the first bytes of all that arrives, as many as the limit, each
on its channel, and from the first byte that it had to drop on it says so to every read (`Intake.KeepsFirst`). A pump
stopped at that byte therefore holds what a pump holds that goes on to the end (`Pump.intake_under`), and the two
together are `first_bytes_kept`. An output that fits below the limit is reported whole, and then neither the order and
the pieces of the reads nor the choice for overflow can be told from the report (`Call.report_within_limit`).
-/

namespace QueryGateway

namespace Intake

/-! ## What is said to each read -/

/-- What an intake says to each read in turn: whether up to it nothing had to be dropped. -/
def answers (limit : Nat) (i : Intake) : List (Channel × Bytes) → List Bool
  | [] => []
  | (channel, chunk) :: rest =>
    (!(i.take limit channel chunk).overflowed) :: answers limit (i.take limit channel chunk) rest

theorem length_answers (limit : Nat) (reads : List (Channel × Bytes)) : ∀ i : Intake,
    (answers limit i reads).length = reads.length := by
  induction reads with
  | nil => intro i; rfl
  | cons read rest ih => intro i; simp [answers, ih]

/-- A read is told whether what was taken in with it has overflowed. -/
theorem getElem?_answers (limit : Nat) (reads : List (Channel × Bytes)) : ∀ (i : Intake) (k : Nat), k < reads.length →
    (answers limit i reads)[k]? = some (!(i.takeAll limit (reads.take (k + 1))).overflowed) := by
  induction reads with
  | nil => intro i k hk; cases hk
  | cons read rest ih =>
    intro i k hk
    cases k with
    | zero => rfl
    | succ k =>
      rw [answers, List.getElem?_cons_succ, ih _ k (Nat.lt_of_succ_lt_succ hk)]
      rfl

/-- From the start of a run a read is told yes exactly when all that arrived up to it is within the limit. -/
theorem getElem?_answers_start {limit : Nat} {reads : List (Channel × Bytes)} {k : Nat} (hk : k < reads.length) :
    (answers limit {} reads)[k]? = some (decide ((arrival (reads.take (k + 1))).length ≤ limit)) := by
  rw [getElem?_answers limit reads {} k hk, takeAll_eq_ofArrival, ofArrival, Option.some.injEq, ← decide_not,
    decide_eq_decide, Nat.not_lt]

theorem lt_of_getElem?_answers {limit : Nat} {i : Intake} {reads : List (Channel × Bytes)} {k : Nat} {said : Bool}
    (h : (answers limit i reads)[k]? = some said) : k < reads.length := by
  rw [← length_answers limit reads i]
  exact (List.getElem?_eq_some_iff.1 h).1

/-! ## The first bytes -/

/-- Everything is kept of each channel exactly when all that arrives is within the limit. -/
theorem kept_all_iff (limit : Nat) (marked : List (Channel × UInt8)) :
    (∀ c, (ofArrival limit marked).kept c = share c marked) ↔ marked.length ≤ limit := by
  constructor
  · intro h
    have hout := congrArg List.length (h .stdout)
    have herr := congrArg List.length (h .stderr)
    have hkept := length_shares (marked.take limit)
    have hall := length_shares marked
    rw [kept_ofArrival] at hout herr
    rw [List.length_take] at hkept
    omega
  · intro h c
    rw [kept_ofArrival, List.take_of_length_le h]

theorem arrival_take_isPrefix (reads : List (Channel × Bytes)) {j k : Nat} (h : j ≤ k) :
    arrival (reads.take j) <+: arrival (reads.take k) := by
  obtain ⟨more, hmore⟩ := List.take_prefix_take_left (l := reads) h
  rw [← hmore, arrival_append]
  exact List.prefix_append _ _

/-- What an intake under a limit does with a sequence of reads. -/
structure KeepsFirst (limit : Nat) (reads : List (Channel × Bytes)) : Prop where
  /-- Of each channel those bytes are kept that are among the first of all that arrive. -/
  kept : ∀ c, (takeAll limit {} reads).kept c = share c ((arrival reads).take (min limit (arrival reads).length))
  /-- They are the first bytes of what the reads of the channel carry. -/
  begins : ∀ c, (takeAll limit {} reads).kept c <+: (reads.filter (·.1 = c)).flatMap Prod.snd
  bounded : (takeAll limit {} reads).total ≤ limit
  /-- Each read is answered, with yes exactly when up to it everything was kept. -/
  answered : (answers limit {} reads).length = reads.length ∧ ∀ k < reads.length,
    (answers limit {} reads)[k]? = some true ↔
      ∀ c, (takeAll limit {} (reads.take (k + 1))).kept c = share c (arrival (reads.take (k + 1)))
  /-- After the first no there is no yes. -/
  refused : ∀ j k : Nat, j ≤ k → (answers limit {} reads)[j]? = some false → (answers limit {} reads)[k]? ≠ some true
  overflowed : (takeAll limit {} reads).overflowed = true ↔ limit < (arrival reads).length
  /-- Other pieces of the same arrival make no difference. -/
  recut : ∀ reads' : List (Channel × Bytes), arrival reads' = arrival reads →
    takeAll limit {} reads' = takeAll limit {} reads
  /-- Nothing changes any more after a no. -/
  stopped : ∀ k, (answers limit {} reads)[k]? = some false →
    takeAll limit {} (reads.take (k + 1)) = takeAll limit {} reads

theorem keepsFirst (limit : Nat) (reads : List (Channel × Bytes)) : KeepsFirst limit reads where
  kept := by
    intro c
    rw [takeAll_eq_ofArrival, kept_ofArrival, ← List.take_eq_take_min]
  begins := by
    intro c
    rw [takeAll_eq_ofArrival, kept_ofArrival, ← share_arrival]
    exact share_take_prefix c limit _
  bounded := by
    rw [takeAll_eq_ofArrival, total_ofArrival]
    exact Nat.min_le_left _ _
  answered := by
    refine ⟨length_answers limit reads {}, fun k hk => ?_⟩
    rw [getElem?_answers_start hk, takeAll_eq_ofArrival, kept_all_iff, Option.some.injEq, decide_eq_true_iff]
  refused := by
    intro j k hjk hno hyes
    rw [getElem?_answers_start (lt_of_getElem?_answers hno), Option.some.injEq, decide_eq_false_iff_not] at hno
    rw [getElem?_answers_start (lt_of_getElem?_answers hyes), Option.some.injEq, decide_eq_true_iff] at hyes
    exact hno (Nat.le_trans (arrival_take_isPrefix reads (Nat.succ_le_succ hjk)).length_le hyes)
  overflowed := by
    rw [takeAll_eq_ofArrival, ofArrival, decide_eq_true_iff]
  recut := by
    intro reads' h
    rw [takeAll_eq_ofArrival, takeAll_eq_ofArrival, h]
  stopped := by
    intro k hno
    rw [getElem?_answers_start (lt_of_getElem?_answers hno), Option.some.injEq, decide_eq_false_iff_not,
      Nat.not_le] at hno
    rw [takeAll_eq_ofArrival, takeAll_eq_ofArrival, ← List.take_append_drop (k + 1) reads, arrival_append,
      List.take_append_drop, ofArrival_append_of_lt hno]

end Intake

/-! ## Both choices for overflow -/

/-- The same bounds under another choice for overflow. -/
def Bounds.under (bounds : Bounds) (choice : Overflow) : Bounds :=
  { bounds with overflow := choice }

/-- The same call under another choice for overflow. -/
def Call.under (call : Call) (choice : Overflow) : Call :=
  { call with bounds := call.bounds.under choice }

namespace Pump

/-- The two choices part only at a read of which something had to be dropped: there one of the pumps ends, and both
hold the same. -/
theorem step_under (bounds : Bounds) (p : Pump) (sight : Sight) :
    step (bounds.under .abort) p sight = step (bounds.under .truncate) p sight ∨
      (step (bounds.under .abort) p sight).ending = some .overflowed ∧
        (step (bounds.under .abort) p sight).intake.overflowed = true := by
  have hsteps := steps_step (bounds.under .abort) p sight
  generalize hq : step (bounds.under .abort) p sight = q at hsteps
  cases hsteps with
  | past h => exact .inl (by simp [step, h])
  | unread h hs hc =>
    left
    cases sight with
    | read d chunk =>
      obtain rfl : d = _ := Option.some.inj hs
      simp [step, h, hc]
    | readFailed d reason =>
      obtain rfl : d = _ := Option.some.inj hs
      simp [step, h, hc]
    | ended status => cases hs
    | waitFailed reason => cases hs
  | closes h hc => exact .inl (by simp [step, h, hc])
  | @takes c chunk h hc hchunk =>
    rcases ending_takeIn (bounds.under .abort) p c chunk with hsame | ⟨hover, -, hfull⟩
    · left
      have hgoes : step (bounds.under .truncate) p (.read c chunk) = p.takeIn (bounds.under .truncate) c chunk := by
        simp [step, h, hc, hchunk]
      rw [hgoes]
      unfold takeIn at hsame ⊢
      simp only [Bounds.under, and_true, reduceCtorEq, and_false, if_false] at hsame ⊢
      split at hsame
      next => rw [h] at hsame; cases hsame
      next hfits => rw [if_neg hfits]
    · exact .inr ⟨hover, hfull⟩
  | fails h hc => exact .inl (by simp [step, h, hc])
  | answers _ hs =>
    left
    rw [← hq]
    cases sight with
    | read c chunk => cases hs
    | readFailed c reason => cases hs
    | ended status => rfl
    | waitFailed reason => rfl

/-- Under `abort` a pump hands over the same as under `truncate`, or a first part of it that overflows. -/
theorem handed_under (bounds : Bounds) (sights : List Sight) : ∀ p : Pump,
    handed (bounds.under .abort) p sights = handed (bounds.under .truncate) p sights ∨
      handed (bounds.under .abort) p sights <+: handed (bounds.under .truncate) p sights ∧
        (run (bounds.under .abort) p sights).intake.overflowed = true := by
  induction sights with
  | nil => intro p; exact .inl rfl
  | cons sight rest ih =>
    intro p
    rw [handed, handed, run_cons]
    rcases step_under bounds p sight with hsame | ⟨hended, hfull⟩
    · rw [hsame]
      rcases ih (step (bounds.under .truncate) p sight) with heq | ⟨hpre, hover⟩
      · exact .inl (by rw [heq])
      · exact .inr ⟨(List.prefix_append_right_inj _).2 hpre, hover⟩
    · rw [handed_of_ended _ hended, run_of_ended _ rest hended, List.append_nil]
      exact .inr ⟨List.prefix_append _ _, hfull⟩

/-- A pump that stops where something had to be dropped holds what a pump holds that goes on. -/
theorem intake_under (bounds : Bounds) (sights : List Sight) :
    (run (bounds.under .abort) {} sights).intake = (run (bounds.under .truncate) {} sights).intake := by
  have hlimits : (bounds.under .abort).outputLimit = (bounds.under .truncate).outputLimit := rfl
  rcases handed_under bounds sights {} with heq | ⟨⟨more, hmore⟩, hover⟩
  · rw [intake_run, intake_run, heq, hlimits]
  · rw [intake_run_start, Intake.ofArrival, decide_eq_true_iff] at hover
    rw [intake_run_start, intake_run_start, ← hmore, arrival_append]
    exact (Intake.ofArrival_append_of_lt hover _).symm

end Pump

/-- Whatever the limit and the reads, the first bytes are kept and no others; a pump holds what its intake keeps of the
reads that it hands over, and the same under both choices for overflow. -/
theorem first_bytes_kept :
    (∀ (limit : Nat) (reads : List (Channel × Bytes)), Intake.KeepsFirst limit reads) ∧
      ∀ (bounds : Bounds) (sights : List Sight),
        (Pump.run bounds {} sights).intake =
            Intake.takeAll bounds.outputLimit {} (Pump.handed bounds {} sights) ∧
          (Pump.run (bounds.under .abort) {} sights).intake =
            (Pump.run (bounds.under .truncate) {} sights).intake :=
  ⟨Intake.keepsFirst, fun bounds sights => ⟨Pump.intake_run bounds sights {}, Pump.intake_under bounds sights⟩⟩

/-! ## Outputs within the limit -/

/-- What an engine prints is reported whole when it fits below the limit. -/
theorem Call.report_of_plays (call : Call) {stdout stderr : Bytes} {status : WaitStatus} {sights : List Sight}
    (h : Sight.Plays stdout stderr status sights) (hfits : stdout.length + stderr.length ≤ call.bounds.outputLimit)
    (duration : Int) :
    call.report (.started sights) duration =
      { fault := status.fault?, stdout := Text.lossy stdout, stderr := Text.lossy stderr, duration := duration } := by
  have hlen : (Sight.arrived sights).length ≤ call.bounds.outputLimit := by
    rw [Sight.length_arrived h.ends, h.first, h.second]
    exact hfits
  have hexit : (Pump.run call.bounds {} sights).ending = some (.exited status) :=
    (Pump.ending_exited_iff call.bounds sights status).2 ⟨h.toCompletes, fun _ => hlen⟩
  rw [report, Pump.intake_of_exited hexit, Intake.ofArrival, List.take_of_length_le hlen,
    Sight.share_arrived (h.ends .stdout), Sight.share_arrived (h.ends .stderr), h.first, h.second, hexit]
  rfl

/-- For an engine whose output fits below the limit, any two runs that end before the deadline without a failed read
agree in all but how long they took, whatever the pieces and the order of the reads and the choice for overflow; and so
do the verdicts on them. -/
theorem Call.report_within_limit (call : Call) {stdout stderr : Bytes} {status : WaitStatus}
    (hfits : stdout.length + stderr.length ≤ call.bounds.outputLimit) (choice₁ choice₂ : Overflow)
    {sights₁ sights₂ : List Sight} (h₁ : Sight.Plays stdout stderr status sights₁)
    (h₂ : Sight.Plays stdout stderr status sights₂) (duration₁ duration₂ : Int) :
    let r₁ := (call.under choice₁).report (.started sights₁) duration₁
    let r₂ := (call.under choice₂).report (.started sights₂) duration₂
    r₁ = { r₂ with duration := duration₁ } ∧
      r₂ = ⟨status.fault?, false, Text.lossy stdout, Text.lossy stderr, duration₂⟩ ∧
      ∀ engine, r₁.verdict engine (call.under choice₁).bounds = r₂.verdict engine (call.under choice₂).bounds := by
  intro r₁ r₂
  have hr₁ : r₁ = ⟨status.fault?, false, Text.lossy stdout, Text.lossy stderr, duration₁⟩ :=
    (call.under choice₁).report_of_plays h₁ hfits duration₁
  have hr₂ : r₂ = ⟨status.fault?, false, Text.lossy stdout, Text.lossy stderr, duration₂⟩ :=
    (call.under choice₂).report_of_plays h₂ hfits duration₂
  refine ⟨by rw [hr₁, hr₂], hr₂, fun engine => ?_⟩
  rw [hr₁, hr₂]
  cases engine <;> rfl

/-- Four bytes where four are allowed: once a character is cut in two and the second channel ends first, once all is
read in one piece and the process has ended before. -/
theorem report_within_limit_recut :
    let call : Call := ⟨.ofString "jqlite", [], ⟨.ofMilliseconds 500, 4, .abort⟩⟩
    let cut : List Sight :=
      [.read .stderr [0x20], .read .stdout [0xC3], .read .stderr [], .read .stdout [0xA9, 0x31], .read .stdout [],
        .ended ⟨0⟩]
    let whole : List Sight :=
      [.ended ⟨0⟩, .read .stdout [0xC3, 0xA9, 0x31], .read .stdout [], .read .stderr [0x20], .read .stderr []]
    Sight.Plays [0xC3, 0xA9, 0x31] [0x20] ⟨0⟩ cut ∧ Sight.Plays [0xC3, 0xA9, 0x31] [0x20] ⟨0⟩ whole ∧
      ((call.under .abort).report (.started cut) 7).verdict .query (call.under .abort).bounds =
        ((call.under .truncate).report (.started whole) 3).verdict .query (call.under .truncate).bounds := by
  intro call cut whole
  have hcut : Sight.Plays [0xC3, 0xA9, 0x31] [0x20] ⟨0⟩ cut :=
    { ends := fun c => by cases c <;> rfl, answered := rfl, first := rfl, second := rfl }
  have hwhole : Sight.Plays [0xC3, 0xA9, 0x31] [0x20] ⟨0⟩ whole :=
    { ends := fun c => by cases c <;> rfl, answered := rfl, first := rfl, second := rfl }
  exact ⟨hcut, hwhole, (call.report_within_limit (by decide) .abort .truncate hcut hwhole 7 3).2.2 .query⟩

end QueryGateway
