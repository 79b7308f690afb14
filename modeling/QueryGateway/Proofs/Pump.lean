import QueryGateway.Engine.Pump
import QueryGateway.Proofs.Intake

/-!
# When a pump sees the process exit

What happened to a run can be told without the pump: what each channel delivered up to its end (`Sight.delivered`),
whether it came to its end at all (`Sight.reachesEnd`), and what the process answers when it is asked for
(`Sight.answer?`). A pump ends with the status of the process exactly when both channels came to their ends, the
process answered with that status, and, under `abort`, nothing had to be dropped (`ending_exited_iff`); it then holds
the intake of all that was delivered (`intake_of_exited`).
-/

namespace QueryGateway

namespace Sight

/-! ## A run told without the pump -/

/-- The bytes that a channel delivers up to its end, or up to a failed read. -/
def delivered (channel : Channel) : List Sight → Bytes
  | [] => []
  | .read c chunk :: rest =>
    if c = channel then if chunk = [] then [] else chunk ++ delivered channel rest else delivered channel rest
  | .readFailed c _ :: rest => if c = channel then [] else delivered channel rest
  | .ended _ :: rest => delivered channel rest
  | .waitFailed _ :: rest => delivered channel rest

/-- Whether a channel comes to its end without a failed read. -/
def reachesEnd (channel : Channel) : List Sight → Bool
  | [] => false
  | .read c chunk :: rest => if c = channel ∧ chunk = [] then true else reachesEnd channel rest
  | .readFailed c _ :: rest => if c = channel then false else reachesEnd channel rest
  | .ended _ :: rest => reachesEnd channel rest
  | .waitFailed _ :: rest => reachesEnd channel rest

/-- What the process answers when it is asked for. -/
def answer? : List Sight → Option Ending
  | [] => none
  | .ended status :: _ => some (.exited status)
  | .waitFailed reason :: _ => some (.failed reason)
  | .read _ _ :: rest => answer? rest
  | .readFailed _ _ :: rest => answer? rest

/-- The reads that lie before the end of their channel, among the channels that are still open. -/
def taken (isOpen : Channel → Bool) : List Sight → List (Channel × Bytes)
  | [] => []
  | .read c chunk :: rest =>
    if isOpen c then
      if chunk = [] then taken (fun d => d ≠ c && isOpen d) rest else (c, chunk) :: taken isOpen rest
    else taken isOpen rest
  | .readFailed _ _ :: rest => taken isOpen rest
  | .ended _ :: rest => taken isOpen rest
  | .waitFailed _ :: rest => taken isOpen rest

/-- Nothing is taken from channels that are all closed. -/
theorem taken_of_closed {isOpen : Channel → Bool} (h : ∀ c, isOpen c = false) (sights : List Sight) :
    taken isOpen sights = [] := by
  induction sights with
  | nil => rfl
  | cons sight rest ih => cases sight <;> simp [taken, h, ih]

/-- The reads taken from a channel that is open and comes to its end carry what the channel delivers; a closed channel
gives nothing more. -/
theorem share_taken (channel : Channel) (sights : List Sight) : ∀ isOpen : Channel → Bool,
    (isOpen channel = true → reachesEnd channel sights = true) →
      share channel (arrival (taken isOpen sights)) = if isOpen channel then delivered channel sights else [] := by
  induction sights with
  | nil => intro isOpen _; simp [taken, delivered, arrival, share]
  | cons sight rest ih =>
    intro isOpen hend
    cases sight with
    | read c chunk =>
      by_cases ho : isOpen c = true
      · by_cases hchunk : chunk = []
        · have hrest : (decide (channel ≠ c) && isOpen channel) = true → reachesEnd channel rest = true := by
            intro h
            simp only [ne_eq, decide_not, Bool.and_eq_true, Bool.not_eq_true', decide_eq_false_iff_not] at h
            simpa [reachesEnd, Ne.symm h.1] using hend h.2
          simp only [taken, ho, if_true, hchunk]
          rw [ih _ hrest]
          by_cases hc : c = channel
          · subst hc
            simp [delivered]
          · simp [delivered, hc, Ne.symm hc]
        · have hrest : isOpen channel = true → reachesEnd channel rest = true := by
            intro h
            simpa [reachesEnd, hchunk] using hend h
          simp only [taken, ho, if_true, hchunk, if_false, arrival_cons, share_append]
          rw [ih _ hrest]
          by_cases hc : c = channel
          · subst hc
            simp [share_mark_self, delivered, hchunk, ho]
          · simp [share_mark_other hc, delivered, hc]
      · have hrest : isOpen channel = true → reachesEnd channel rest = true := by
          intro h
          have hc : c ≠ channel := by
            rintro rfl
            exact ho h
          simpa [reachesEnd, hc] using hend h
        simp only [taken, ho, if_false, Bool.false_eq_true]
        rw [ih _ hrest]
        by_cases hc : c = channel
        · subst hc
          simp [ho]
        · simp [delivered, hc]
    | readFailed c reason =>
      by_cases hc : c = channel
      · subst hc
        have hclosed : isOpen c = false := by
          cases h : isOpen c with
          | false => rfl
          | true => simpa [reachesEnd] using hend h
        simpa [taken, hclosed] using ih isOpen (by simp [hclosed])
      · simpa [taken, delivered, hc] using ih isOpen (by simpa [reachesEnd, hc] using hend)
    | ended status => exact ih isOpen hend
    | waitFailed reason => exact ih isOpen hend

end Sight

namespace Pump

/-! ## One sight -/

@[simp] theorem isOpen_settle (p : Pump) : p.settle.isOpen = p.isOpen := by
  funext c
  unfold settle
  split <;> cases c <;> rfl

@[simp] theorem child_settle (p : Pump) : p.settle.child = p.child := by
  unfold settle
  split <;> rfl

@[simp] theorem child_close (p : Pump) (c : Channel) : (p.close c).child = p.child := by
  cases c <;> rfl

theorem isOpen_close (p : Pump) (c : Channel) : (p.close c).isOpen = fun d => decide (d ≠ c) && p.isOpen d := by
  funext d
  cases c <;> cases d <;> simp [close, isOpen]

/-- A pump that has ended sees nothing more. -/
theorem run_of_ended (bounds : Bounds) (sights : List Sight) {p : Pump} {e : Ending} (h : p.ending = some e) :
    run bounds p sights = p := by
  induction sights with
  | nil => rfl
  | cons sight rest ih =>
    have hstep : step bounds p sight = p := by simp [step, h]
    rw [run, List.foldl_cons, hstep]
    exact ih

theorem run_cons (bounds : Bounds) (p : Pump) (sight : Sight) (rest : List Sight) :
    run bounds p (sight :: rest) = run bounds (step bounds p sight) rest := rfl

/-- A pump that goes on with one of its channels open is not asking for the process; one with both closed is, and has
no answer yet. `marked` is what has arrived, all of it kept under `abort`. -/
structure Waiting (bounds : Bounds) (marked : List (Channel × UInt8)) (p : Pump) : Prop where
  ending : p.ending = none
  asking : (∀ c, p.isOpen c = false) → p.child = none
  intake : p.intake = .ofArrival bounds.outputLimit marked
  fits : bounds.overflow = .abort → marked.length ≤ bounds.outputLimit

theorem waiting_start (bounds : Bounds) : Waiting bounds [] {} where
  ending := rfl
  asking := fun _ => rfl
  intake := (Intake.ofArrival_nil _).symm
  fits := fun _ => Nat.zero_le _

/-- What must happen for a pump in this position to see the process exit with a status: the open channels come to their
ends, the process answers with the status, and under `abort` all that arrives fits. -/
structure Exits (bounds : Bounds) (marked : List (Channel × UInt8)) (isOpen : Channel → Bool) (child : Option Ending)
    (sights : List Sight) (status : WaitStatus) : Prop where
  ends : ∀ c, isOpen c = true → Sight.reachesEnd c sights = true
  answered : (child <|> Sight.answer? sights) = some (.exited status)
  fits : bounds.overflow = .abort → (marked ++ arrival (Sight.taken isOpen sights)).length ≤ bounds.outputLimit

/-- A pump sees the process exit exactly when that must happen, and then holds the intake of all that was taken. -/
def Foretold (bounds : Bounds) (marked : List (Channel × UInt8)) (p : Pump) (sights : List Sight) : Prop :=
  ∀ status,
    ((run bounds p sights).ending = some (.exited status) ↔ Exits bounds marked p.isOpen p.child sights status) ∧
      (Exits bounds marked p.isOpen p.child sights status →
        (run bounds p sights).intake =
          .ofArrival bounds.outputLimit (marked ++ arrival (Sight.taken p.isOpen sights)))

theorem foretold_nil {bounds : Bounds} {marked : List (Channel × UInt8)} {p : Pump} (h : Waiting bounds marked p) :
    Foretold bounds marked p [] := by
  intro status
  have hnot : ¬Exits bounds marked p.isOpen p.child [] status := by
    intro hx
    have hclosed : ∀ c, p.isOpen c = false := by
      intro c
      cases ho : p.isOpen c with
      | false => rfl
      | true => simpa [Sight.reachesEnd] using hx.ends c ho
    have := hx.answered
    rw [h.asking hclosed] at this
    simp [Sight.answer?] at this
  have hrun : (run bounds p []).ending = none := h.ending
  exact ⟨by rw [hrun]; exact iff_of_false nofun hnot, fun hx => absurd hx hnot⟩

/-- A pump that has ended with an answer of the process, both channels closed. -/
theorem foretold_ended {bounds : Bounds} {marked : List (Channel × UInt8)} {p : Pump} {e : Ending} (sights : List Sight)
    (hended : p.ending = some e) (hchild : p.child = some e) (hclosed : ∀ c, p.isOpen c = false)
    (hintake : p.intake = .ofArrival bounds.outputLimit marked)
    (hfits : bounds.overflow = .abort → marked.length ≤ bounds.outputLimit) : Foretold bounds marked p sights := by
  intro status
  have htaken : marked ++ arrival (Sight.taken p.isOpen sights) = marked := by
    rw [Sight.taken_of_closed hclosed, arrival, List.flatMap_nil, List.append_nil]
  rw [run_of_ended bounds sights hended, htaken]
  refine ⟨⟨fun h => ?_, fun hx => ?_⟩, fun _ => hintake⟩
  · refine ⟨fun c hc => absurd hc (by simp [hclosed c]), ?_, by rw [htaken]; exact hfits⟩
    rw [hchild, ← hended, h]
    rfl
  · have := hx.answered
    rw [hchild] at this
    rw [hended]
    exact this

/-- Asking for the process, where both channels are closed, keeps what is foretold. -/
theorem foretold_settle {bounds : Bounds} {marked : List (Channel × UInt8)} {p : Pump} {sights : List Sight}
    (hending : p.ending = none) (hintake : p.intake = .ofArrival bounds.outputLimit marked)
    (hfits : bounds.overflow = .abort → marked.length ≤ bounds.outputLimit)
    (ih : ∀ q, Waiting bounds marked q → Foretold bounds marked q sights) : Foretold bounds marked p.settle sights := by
  by_cases ho : (p.stdoutOpen || p.stderrOpen) = true
  · have hsettle : p.settle = p := by simp [settle, ho]
    rw [hsettle]
    refine ih p ⟨hending, fun hclosed => ?_, hintake, hfits⟩
    have h1 : p.stdoutOpen = false := hclosed .stdout
    have h2 : p.stderrOpen = false := hclosed .stderr
    simp [h1, h2] at ho
  · have hsettle : p.settle = { p with ending := p.child } := by simp [settle, ho]
    have hclosed : ∀ c, p.isOpen c = false := by
      intro c
      simp only [Bool.or_eq_true, not_or, Bool.not_eq_true] at ho
      cases c
      · exact ho.1
      · exact ho.2
    rw [hsettle]
    cases p.child with
    | none => exact ih _ ⟨rfl, fun _ => rfl, hintake, hfits⟩
    | some e => exact foretold_ended sights rfl rfl hclosed hintake hfits

/-- What is foretold after one sight was foretold before it, if the sight changes nothing about what must happen. -/
theorem foretold_cons {bounds : Bounds} {marked : List (Channel × UInt8)} (marked' : List (Channel × UInt8)) {p : Pump}
    {sight : Sight} {rest : List Sight} (h : Foretold bounds marked' (step bounds p sight) rest)
    (hends : (∀ c, p.isOpen c = true → Sight.reachesEnd c (sight :: rest) = true) ↔
      ∀ c, (step bounds p sight).isOpen c = true → Sight.reachesEnd c rest = true)
    (hanswer : (p.child <|> Sight.answer? (sight :: rest)) = ((step bounds p sight).child <|> Sight.answer? rest))
    (htaken : marked ++ arrival (Sight.taken p.isOpen (sight :: rest)) =
      marked' ++ arrival (Sight.taken (step bounds p sight).isOpen rest)) :
    Foretold bounds marked p (sight :: rest) := by
  intro status
  have hexits : Exits bounds marked p.isOpen p.child (sight :: rest) status ↔
      Exits bounds marked' (step bounds p sight).isOpen (step bounds p sight).child rest status := by
    constructor
    · rintro ⟨h1, h2, h3⟩
      exact ⟨hends.1 h1, hanswer ▸ h2, htaken ▸ h3⟩
    · rintro ⟨h1, h2, h3⟩
      exact ⟨hends.2 h1, hanswer ▸ h2, htaken ▸ h3⟩
  rw [run_cons, hexits, htaken]
  exact h status

/-! ## Each kind of sight -/

section
variable {bounds : Bounds} {marked : List (Channel × UInt8)} {p : Pump} {rest : List Sight}

/-- Neither a read nor a failed read of a closed channel is seen. -/
theorem foretold_closed {sight : Sight} {c : Channel}
    (hs : (∃ chunk, sight = .read c chunk) ∨ ∃ reason, sight = .readFailed c reason)
    (h : Waiting bounds marked p) (hc : p.isOpen c = false)
    (ih : ∀ marked p, Waiting bounds marked p → Foretold bounds marked p rest) :
    Foretold bounds marked p (sight :: rest) := by
  have hother : ∀ d, p.isOpen d = true → c ≠ d := by
    rintro d hd rfl
    rw [hc] at hd
    cases hd
  rcases hs with ⟨chunk, rfl⟩ | ⟨reason, rfl⟩
  · have hstep : step bounds p (.read c chunk) = p := by simp [step, h.ending, hc]
    apply foretold_cons marked <;> rw [hstep]
    · exact ih marked p h
    · exact forall₂_congr fun d hd => by simp [Sight.reachesEnd, hother d hd]
    · rfl
    · simp [Sight.taken, hc]
  · have hstep : step bounds p (.readFailed c reason) = p := by simp [step, h.ending, hc]
    apply foretold_cons marked <;> rw [hstep]
    · exact ih marked p h
    · exact forall₂_congr fun d hd => by simp [Sight.reachesEnd, hother d hd]
    · rfl
    · rfl

/-- A channel that is open comes to its end. -/
theorem foretold_end {c : Channel} (h : Waiting bounds marked p) (hc : p.isOpen c = true)
    (ih : ∀ marked p, Waiting bounds marked p → Foretold bounds marked p rest) :
    Foretold bounds marked p (.read c [] :: rest) := by
  have hstep : step bounds p (.read c []) = (p.close c).settle := by simp [step, h.ending, hc]
  apply foretold_cons marked <;> rw [hstep]
  · apply foretold_settle _ _ h.fits (ih marked)
    · cases c <;> exact h.ending
    · cases c <;> exact h.intake
  · rw [isOpen_settle, isOpen_close]
    refine forall_congr' fun d => ?_
    by_cases hd : d = c
    · simp [Sight.reachesEnd, hd]
    · simp [Sight.reachesEnd, hd, Ne.symm hd]
  · rw [child_settle, child_close]
    rfl
  · rw [isOpen_settle, isOpen_close]
    simp [Sight.taken, hc]

/-- A read that is not empty arrives on a channel that is open. Where it does not fit under `abort` the pump ends with it. -/
theorem foretold_read {c : Channel} {chunk : Bytes} (h : Waiting bounds marked p) (hc : p.isOpen c = true)
    (hchunk : chunk ≠ []) (ih : ∀ marked p, Waiting bounds marked p → Foretold bounds marked p rest) :
    Foretold bounds marked p (.read c chunk :: rest) := by
  have hstep : step bounds p (.read c chunk) = p.takeIn bounds c chunk := by simp [step, h.ending, hc, hchunk]
  have hintake : p.intake.take bounds.outputLimit c chunk =
      .ofArrival bounds.outputLimit (marked ++ chunk.map (Prod.mk c)) := by
    rw [h.intake, Intake.take_ofArrival]
  have htaken : arrival (Sight.taken p.isOpen (.read c chunk :: rest)) =
      chunk.map (Prod.mk c) ++ arrival (Sight.taken p.isOpen rest) := by
    simp [Sight.taken, hc, hchunk, arrival_cons]
  by_cases hover : bounds.outputLimit < (marked ++ chunk.map (Prod.mk c)).length ∧ bounds.overflow = .abort
  · have hended : (step bounds p (.read c chunk)).ending = some .overflowed := by
      rw [hstep, takeIn, hintake]
      simp only [Intake.ofArrival, decide_eq_true_eq, hover, and_self, if_true]
    intro status
    have hnot : ¬Exits bounds marked p.isOpen p.child (.read c chunk :: rest) status := by
      intro hx
      have hfits := hx.fits hover.2
      have hlong := hover.1
      rw [htaken, ← List.append_assoc, List.length_append] at hfits
      omega
    rw [run_cons, run_of_ended bounds rest hended, hended]
    exact ⟨iff_of_false (by simp) hnot, fun hx => absurd hx hnot⟩
  · have hgoes : p.takeIn bounds c chunk =
        { p with intake := .ofArrival bounds.outputLimit (marked ++ chunk.map (Prod.mk c)) } := by
      rw [takeIn, hintake]
      simp only [Intake.ofArrival, decide_eq_true_eq, hover, if_false]
    have hwaiting : Waiting bounds (marked ++ chunk.map (Prod.mk c)) (p.takeIn bounds c chunk) := by
      rw [hgoes]
      exact ⟨h.ending, h.asking, rfl, fun habort => Nat.le_of_not_lt fun hlong => hover ⟨hlong, habort⟩⟩
    have hopen : (p.takeIn bounds c chunk).isOpen = p.isOpen := by
      rw [hgoes]
      funext d
      cases d <;> rfl
    apply foretold_cons (marked ++ chunk.map (Prod.mk c)) <;> rw [hstep]
    · exact ih _ _ hwaiting
    · rw [hopen]
      simp [Sight.reachesEnd, hchunk]
    · rw [hgoes]
      rfl
    · rw [hopen, htaken, List.append_assoc]

/-- A read of a channel that is open fails. -/
theorem foretold_failed {c : Channel} {reason : String} (h : Waiting bounds marked p) (hc : p.isOpen c = true) :
    Foretold bounds marked p (.readFailed c reason :: rest) := by
  have hended : (step bounds p (.readFailed c reason)).ending = some (.failed reason) := by
    simp [step, h.ending, hc]
  intro status
  have hnot : ¬Exits bounds marked p.isOpen p.child (.readFailed c reason :: rest) status := by
    intro hx
    simpa [Sight.reachesEnd] using hx.ends c hc
  rw [run_cons, run_of_ended bounds rest hended, hended]
  exact ⟨iff_of_false nofun hnot, fun hx => absurd hx hnot⟩

/-- The process answers: the first answer counts. -/
theorem foretold_answer {sight : Sight} {e : Ending}
    (hs : (∃ status, sight = .ended status ∧ e = .exited status) ∨
      ∃ reason, sight = .waitFailed reason ∧ e = .failed reason)
    (h : Waiting bounds marked p) (ih : ∀ marked p, Waiting bounds marked p → Foretold bounds marked p rest) :
    Foretold bounds marked p (sight :: rest) := by
  have hstep : step bounds p sight = settle { p with child := p.child <|> some e } := by
    rcases hs with ⟨status, rfl, rfl⟩ | ⟨reason, rfl, rfl⟩ <;> simp [step, h.ending]
  have hopen : (step bounds p sight).isOpen = p.isOpen := by
    rw [hstep, isOpen_settle]
    funext d
    cases d <;> rfl
  have hends : ∀ d, Sight.reachesEnd d (sight :: rest) = Sight.reachesEnd d rest := by
    intro d
    rcases hs with ⟨status, rfl, rfl⟩ | ⟨reason, rfl, rfl⟩ <;> rfl
  have hanswer : Sight.answer? (sight :: rest) = some e := by
    rcases hs with ⟨status, rfl, rfl⟩ | ⟨reason, rfl, rfl⟩ <;> rfl
  have htaken : Sight.taken p.isOpen (sight :: rest) = Sight.taken p.isOpen rest := by
    rcases hs with ⟨status, rfl, rfl⟩ | ⟨reason, rfl, rfl⟩ <;> rfl
  apply foretold_cons marked
  · rw [hstep]
    exact foretold_settle h.ending h.intake h.fits (ih marked)
  · rw [hopen]
    simp only [hends]
  · rw [hanswer, hstep, child_settle]
    cases p.child <;> rfl
  · rw [hopen, htaken]

end

/-- A waiting pump sees the process exit exactly when that is foretold. -/
theorem foretold_of_waiting (bounds : Bounds) (sights : List Sight) : ∀ marked p, Waiting bounds marked p →
    Foretold bounds marked p sights := by
  induction sights with
  | nil => intro marked p h; exact foretold_nil h
  | cons sight rest ih =>
    intro marked p h
    cases sight with
    | read c chunk =>
      cases hc : p.isOpen c with
      | false => exact foretold_closed (.inl ⟨chunk, rfl⟩) h hc ih
      | true =>
        by_cases hchunk : chunk = []
        · subst hchunk
          exact foretold_end h hc ih
        · exact foretold_read h hc hchunk ih
    | readFailed c reason =>
      cases hc : p.isOpen c with
      | false => exact foretold_closed (.inr ⟨reason, rfl⟩) h hc ih
      | true => exact foretold_failed h hc
    | ended status => exact foretold_answer (.inl ⟨status, rfl, rfl⟩) h ih
    | waitFailed reason => exact foretold_answer (.inr ⟨reason, rfl, rfl⟩) h ih

end Pump

namespace Sight

/-- What is taken in from the start of a run. -/
def arrived (sights : List Sight) : List (Channel × UInt8) :=
  arrival (taken (fun _ => true) sights)

/-- A run that comes to its end by itself: both channels end without a failed read, and the process answers with its
status. -/
structure Completes (sights : List Sight) (status : WaitStatus) : Prop where
  ends : ∀ c, reachesEnd c sights = true
  answered : answer? sights = some (.exited status)

theorem share_arrived {sights : List Sight} {c : Channel} (h : reachesEnd c sights = true) :
    share c (arrived sights) = delivered c sights := by
  simp [arrived, share_taken c sights (fun _ => true) (fun _ => h)]

/-- All that a complete run delivers, and nothing else, arrives. -/
theorem length_arrived {sights : List Sight} (h : ∀ c, reachesEnd c sights = true) :
    (arrived sights).length = (delivered .stdout sights).length + (delivered .stderr sights).length := by
  rw [← length_shares, share_arrived (h .stdout), share_arrived (h .stderr)]

end Sight

namespace Pump

theorem exits_start_iff {bounds : Bounds} {sights : List Sight} {status : WaitStatus} :
    Exits bounds [] (fun _ => true) none sights status ↔
      Sight.Completes sights status ∧
        (bounds.overflow = .abort → (Sight.arrived sights).length ≤ bounds.outputLimit) := by
  constructor
  · rintro ⟨h1, h2, h3⟩
    exact ⟨⟨fun c => h1 c rfl, by simpa using h2⟩, h3⟩
  · rintro ⟨⟨h1, h2⟩, h3⟩
    exact ⟨fun c _ => h1 c, by simpa using h2, h3⟩

theorem isOpen_start : ({} : Pump).isOpen = fun _ => true := by
  funext c
  cases c <;> rfl

/-- A pump sees the process exit with a status exactly when the run completes with it and, under `abort`, all that the
run delivers fits below the limit. -/
theorem ending_exited_iff (bounds : Bounds) (sights : List Sight) (status : WaitStatus) :
    (run bounds {} sights).ending = some (.exited status) ↔
      Sight.Completes sights status ∧
        (bounds.overflow = .abort → (Sight.arrived sights).length ≤ bounds.outputLimit) := by
  rw [← exits_start_iff, ← isOpen_start]
  exact (foretold_of_waiting bounds sights [] {} (waiting_start bounds) status).1

/-- A pump that saw the process exit holds the intake of all that arrived. -/
theorem intake_of_exited {bounds : Bounds} {sights : List Sight} {status : WaitStatus}
    (h : (run bounds {} sights).ending = some (.exited status)) :
    (run bounds {} sights).intake = .ofArrival bounds.outputLimit (Sight.arrived sights) := by
  have hf := foretold_of_waiting bounds sights [] {} (waiting_start bounds) status
  have := hf.2 (hf.1.1 h)
  rwa [isOpen_start, List.nil_append] at this

end Pump

end QueryGateway
