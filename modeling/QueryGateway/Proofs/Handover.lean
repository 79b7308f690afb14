import QueryGateway.Proofs.Pump

/-!
# What a pump hands to its intake

A pump hands over the reads that are not empty, of channels that are open, until it ends (`Pump.handed`). Whatever
happens to a run, also when it fails or its time is up, what the pump has taken in is the intake of these reads
(`intake_run`), and of each channel they are a first part of what the channel delivers (`share_handed_isPrefix`). How a
pump came to its end is told by what it saw (`grounded_run`). All of this rests on one account of what a sight can do
to a pump (`Steps`).
-/

namespace QueryGateway

/-- The channel of a read, failed or not. -/
def Sight.channel? : Sight → Option Channel
  | read c _ => some c
  | readFailed c _ => some c
  | ended _ => none
  | waitFailed _ => none

/-- A read of another channel delivers nothing on this one. -/
theorem Sight.delivered_cons_other {sight : Sight} {c : Channel} (h : sight.channel? ≠ some c) (rest : List Sight) :
    delivered c (sight :: rest) = delivered c rest := by
  cases sight with
  | read d chunk =>
    have hd : d ≠ c := fun hd => h (congrArg some hd)
    simp [delivered, hd]
  | readFailed d reason =>
    have hd : d ≠ c := fun hd => h (congrArg some hd)
    simp [delivered, hd]
  | ended status => rfl
  | waitFailed reason => rfl

namespace Pump

/-! ## One sight -/

@[simp] theorem intake_settle (p : Pump) : p.settle.intake = p.intake := by
  unfold settle
  split <;> rfl

/-- A pump that asks for the process ends with the answer; one that need not ask stays as it is. -/
theorem ending_settle (p : Pump) : p.settle.ending = p.ending ∨ p.settle.ending = p.child := by
  unfold settle
  split
  · exact .inl rfl
  · exact .inr rfl

@[simp] theorem intake_close (p : Pump) (c : Channel) : (p.close c).intake = p.intake := by
  cases c <;> rfl

@[simp] theorem ending_close (p : Pump) (c : Channel) : (p.close c).ending = p.ending := by
  cases c <;> rfl

@[simp] theorem intake_takeIn (bounds : Bounds) (p : Pump) (c : Channel) (chunk : Bytes) :
    (p.takeIn bounds c chunk).intake = p.intake.take bounds.outputLimit c chunk := by
  unfold takeIn
  dsimp only
  split <;> rfl

@[simp] theorem child_takeIn (bounds : Bounds) (p : Pump) (c : Channel) (chunk : Bytes) :
    (p.takeIn bounds c chunk).child = p.child := by
  unfold takeIn
  dsimp only
  split <;> rfl

@[simp] theorem isOpen_takeIn (bounds : Bounds) (p : Pump) (c : Channel) (chunk : Bytes) :
    (p.takeIn bounds c chunk).isOpen = p.isOpen := by
  funext d
  unfold takeIn
  dsimp only
  split <;> cases d <;> rfl

/-- Taking a read in ends a pump only under `abort`, and only when something had to be dropped. -/
theorem ending_takeIn (bounds : Bounds) (p : Pump) (c : Channel) (chunk : Bytes) :
    (p.takeIn bounds c chunk).ending = p.ending ∨
      (p.takeIn bounds c chunk).ending = some .overflowed ∧ bounds.overflow = .abort ∧
        (p.takeIn bounds c chunk).intake.overflowed = true := by
  rw [intake_takeIn]
  unfold takeIn
  dsimp only
  split
  next h => exact .inr ⟨rfl, h.2, h.1⟩
  next => exact .inl rfl

/-- All that one sight can do to a pump: nothing once the pump has ended or when it is of a channel that is closed;
else it closes its channel, is taken in, fails the pump, or answers for the process. -/
inductive Steps (bounds : Bounds) (p : Pump) : Sight → Pump → Prop where
  | past {sight : Sight} {e : Ending} (h : p.ending = some e) : Steps bounds p sight p
  | unread {sight : Sight} {c : Channel} (h : p.ending = none) (hs : sight.channel? = some c)
      (hc : p.isOpen c = false) : Steps bounds p sight p
  | closes {c : Channel} (h : p.ending = none) (hc : p.isOpen c = true) :
      Steps bounds p (.read c []) (p.close c).settle
  | takes {c : Channel} {chunk : Bytes} (h : p.ending = none) (hc : p.isOpen c = true) (hchunk : chunk ≠ []) :
      Steps bounds p (.read c chunk) (p.takeIn bounds c chunk)
  | fails {c : Channel} {reason : String} (h : p.ending = none) (hc : p.isOpen c = true) :
      Steps bounds p (.readFailed c reason) { p with ending := some (.failed reason) }
  | answers {sight : Sight} {e : Ending} (h : p.ending = none) (hs : Sight.answer? [sight] = some e) :
      Steps bounds p sight (settle { p with child := p.child <|> some e })

theorem steps_step (bounds : Bounds) (p : Pump) (sight : Sight) : Steps bounds p sight (step bounds p sight) := by
  cases hended : p.ending with
  | some e =>
    have hstep : step bounds p sight = p := by simp [step, hended]
    rw [hstep]
    exact .past hended
  | none =>
    cases sight with
    | read c chunk =>
      cases hc : p.isOpen c with
      | false =>
        have hstep : step bounds p (.read c chunk) = p := by simp [step, hended, hc]
        rw [hstep]
        exact .unread hended rfl hc
      | true =>
        by_cases hchunk : chunk = []
        · subst hchunk
          have hstep : step bounds p (.read c []) = (p.close c).settle := by simp [step, hended, hc]
          rw [hstep]
          exact .closes hended hc
        · have hstep : step bounds p (.read c chunk) = p.takeIn bounds c chunk := by simp [step, hended, hc, hchunk]
          rw [hstep]
          exact .takes hended hc hchunk
    | readFailed c reason =>
      cases hc : p.isOpen c with
      | false =>
        have hstep : step bounds p (.readFailed c reason) = p := by simp [step, hended, hc]
        rw [hstep]
        exact .unread hended rfl hc
      | true =>
        have hstep : step bounds p (.readFailed c reason) = { p with ending := some (.failed reason) } := by
          simp [step, hended, hc]
        rw [hstep]
        exact .fails hended hc
    | ended status =>
      have hstep : step bounds p (.ended status) = settle { p with child := p.child <|> some (.exited status) } := by
        simp [step, hended]
      rw [hstep]
      exact .answers hended rfl
    | waitFailed reason =>
      have hstep : step bounds p (.waitFailed reason) =
          settle { p with child := p.child <|> some (.failed reason) } := by
        simp [step, hended]
      rw [hstep]
      exact .answers hended rfl

/-! ## What is handed over -/

/-- What a pump hands over at one sight: a read that is not empty, of a channel that is open. -/
def handedAt (p : Pump) : Sight → List (Channel × Bytes)
  | .read c chunk => if p.ending = none ∧ p.isOpen c = true ∧ chunk ≠ [] then [(c, chunk)] else []
  | .readFailed _ _ => []
  | .ended _ => []
  | .waitFailed _ => []

/-- The reads that a pump hands to its intake, in their order. -/
def handed (bounds : Bounds) (p : Pump) : List Sight → List (Channel × Bytes)
  | [] => []
  | sight :: rest => p.handedAt sight ++ handed bounds (step bounds p sight) rest

theorem handedAt_of_ended {p : Pump} {e : Ending} (h : p.ending = some e) (sight : Sight) : p.handedAt sight = [] := by
  cases sight <;> simp [handedAt, h]

theorem handedAt_of_closed {p : Pump} {sight : Sight} {c : Channel} (hs : sight.channel? = some c)
    (hc : p.isOpen c = false) : p.handedAt sight = [] := by
  cases sight with
  | read d chunk =>
    obtain rfl : d = c := Option.some.inj hs
    simp [handedAt, hc]
  | readFailed d reason => rfl
  | ended status => rfl
  | waitFailed reason => rfl

theorem handedAt_of_answer {sight : Sight} {e : Ending} (hs : Sight.answer? [sight] = some e) (p : Pump) :
    p.handedAt sight = [] := by
  cases sight with
  | read c chunk => cases hs
  | readFailed c reason => rfl
  | ended status => rfl
  | waitFailed reason => rfl

/-- A pump that has ended hands nothing over. -/
theorem handed_of_ended (bounds : Bounds) {p : Pump} {e : Ending} (h : p.ending = some e) (sights : List Sight) :
    handed bounds p sights = [] := by
  induction sights with
  | nil => rfl
  | cons sight rest ih =>
    have hstep : step bounds p sight = p := by simp [step, h]
    rw [handed, handedAt_of_ended h, hstep, ih, List.append_nil]

/-- At one sight an intake takes in what is handed over, and nothing else. -/
theorem intake_step (bounds : Bounds) (p : Pump) (sight : Sight) :
    (step bounds p sight).intake = p.intake.takeAll bounds.outputLimit (p.handedAt sight) := by
  have hsteps := steps_step bounds p sight
  generalize step bounds p sight = q at hsteps
  cases hsteps with
  | past h => rw [handedAt_of_ended h]; rfl
  | unread _ hs hc => rw [handedAt_of_closed hs hc]; rfl
  | closes _ _ => simp [handedAt, Intake.takeAll]
  | takes h hc hchunk => simp [handedAt, h, hc, hchunk, Intake.takeAll]
  | fails _ _ => rfl
  | answers _ hs => rw [handedAt_of_answer hs]; simp [Intake.takeAll]

/-- What a pump has taken in is the intake of the reads that it handed over. -/
theorem intake_run (bounds : Bounds) (sights : List Sight) : ∀ p : Pump,
    (run bounds p sights).intake = p.intake.takeAll bounds.outputLimit (handed bounds p sights) := by
  induction sights with
  | nil => intro p; rfl
  | cons sight rest ih =>
    intro p
    rw [run_cons, ih, intake_step, handed, Intake.takeAll, Intake.takeAll, Intake.takeAll, List.foldl_append]

/-- A pump holds the first bytes of what it handed over, as many as the limit. -/
theorem intake_run_start (bounds : Bounds) (sights : List Sight) :
    (run bounds {} sights).intake = .ofArrival bounds.outputLimit (arrival (handed bounds {} sights)) := by
  rw [intake_run]
  exact Intake.takeAll_eq_ofArrival _ _

/-- Of each channel what is handed over is a first part of what the channel delivers, and nothing of a channel that is
closed. -/
theorem share_handed_within (bounds : Bounds) (c : Channel) (sights : List Sight) : ∀ p : Pump,
    share c (arrival (handed bounds p sights)) <+: if p.isOpen c then Sight.delivered c sights else [] := by
  induction sights with
  | nil => intro p; exact List.nil_prefix
  | cons sight rest ih =>
    intro p
    have hrest := ih (step bounds p sight)
    have hsteps := steps_step bounds p sight
    rw [handed, arrival_append, share_append]
    generalize step bounds p sight = q at hsteps hrest
    cases hsteps with
    | past h =>
      rw [handedAt_of_ended h, handed_of_ended bounds h]
      exact List.nil_prefix
    | @unread _ d _ hs hd =>
      rw [handedAt_of_closed hs hd]
      by_cases hdc : d = c
      · subst hdc
        simpa [hd] using hrest
      · rw [Sight.delivered_cons_other (by simpa [hs] using hdc)]
        simpa using hrest
    | @closes d _ hd =>
      have hnone : p.handedAt (.read d []) = [] := by simp [handedAt]
      rw [isOpen_settle, isOpen_close] at hrest
      rw [hnone]
      by_cases hdc : d = c
      · subst hdc
        have hempty : share d (arrival (handed bounds (p.close d).settle rest)) = [] := by simpa using hrest
        rw [hempty]
        exact List.nil_prefix
      · rw [Sight.delivered_cons_other (by simpa [Sight.channel?] using hdc)]
        simpa [Ne.symm hdc] using hrest
    | @takes d chunk h hd hchunk =>
      have hone : p.handedAt (.read d chunk) = [(d, chunk)] := by simp [handedAt, h, hd, hchunk]
      rw [isOpen_takeIn] at hrest
      rw [hone, arrival_cons, share_append]
      by_cases hdc : d = c
      · subst hdc
        have hwhole : Sight.delivered d (.read d chunk :: rest) = chunk ++ Sight.delivered d rest := by
          simp [Sight.delivered, hchunk]
        rw [if_pos hd] at hrest ⊢
        rw [hwhole, share_mark_self, arrival_nil, share_nil, List.append_nil]
        exact (List.prefix_append_right_inj chunk).2 hrest
      · rw [Sight.delivered_cons_other (by simpa [Sight.channel?] using hdc), share_mark_other hdc]
        simpa using hrest
    | @fails d reason _ _ =>
      have hnone : p.handedAt (.readFailed d reason) = [] := rfl
      rw [hnone, handed_of_ended bounds rfl]
      exact List.nil_prefix
    | answers _ hs =>
      have hother : sight.channel? ≠ some c := by
        cases sight <;> simp_all [Sight.answer?, Sight.channel?]
      rw [handedAt_of_answer hs, Sight.delivered_cons_other hother]
      have hopen : ∀ e, Pump.isOpen (settle { p with child := e }) c = p.isOpen c := by
        intro e
        rw [isOpen_settle]
        cases c <;> rfl
      rw [hopen] at hrest
      simpa using hrest

/-- Of each channel what a pump hands over is a first part of what the channel delivers. -/
theorem share_handed_isPrefix (bounds : Bounds) (c : Channel) (sights : List Sight) :
    share c (arrival (handed bounds {} sights)) <+: Sight.delivered c sights := by
  have h := share_handed_within bounds c sights {}
  rwa [isOpen_start, if_pos rfl] at h

end Pump

/-! ## How a pump ends -/

namespace Ending

/-- The process has answered with this among these sights. -/
def Answered (seen : List Sight) : Ending → Prop
  | exited status => .ended status ∈ seen
  | overflowed => False
  | failed reason => .waitFailed reason ∈ seen

/-- What an ending rests on: an answer of the process, a failed read, or under `abort` something that was dropped. -/
def Grounded (bounds : Bounds) (intake : Intake) (seen : List Sight) : Ending → Prop
  | exited status => .ended status ∈ seen
  | overflowed => bounds.overflow = .abort ∧ intake.overflowed = true
  | failed reason => (∃ c, .readFailed c reason ∈ seen) ∨ .waitFailed reason ∈ seen

theorem Answered.grounded {seen : List Sight} {e : Ending} (h : e.Answered seen) (bounds : Bounds) (intake : Intake) :
    e.Grounded bounds intake seen := by
  cases e with
  | exited status => exact h
  | overflowed => exact h.elim
  | failed reason => exact .inr h

theorem answered_of_answer {sight : Sight} {e : Ending} (h : Sight.answer? [sight] = some e) (seen : List Sight) :
    e.Answered (seen ++ [sight]) := by
  cases sight with
  | read c chunk => cases h
  | readFailed c reason => cases h
  | ended status => cases h; exact List.mem_append_right _ List.mem_cons_self
  | waitFailed reason => cases h; exact List.mem_append_right _ List.mem_cons_self

theorem Answered.append {seen : List Sight} {e : Ending} (h : e.Answered seen) (more : List Sight) :
    e.Answered (seen ++ more) := by
  cases e with
  | exited status => exact List.mem_append_left _ h
  | overflowed => exact h
  | failed reason => exact List.mem_append_left _ h

theorem Grounded.append {bounds : Bounds} {intake : Intake} {seen : List Sight} {e : Ending}
    (h : e.Grounded bounds intake seen) (more : List Sight) : e.Grounded bounds intake (seen ++ more) := by
  cases e with
  | exited status => exact List.mem_append_left _ h
  | overflowed => exact h
  | failed reason => exact h.imp (fun ⟨c, hc⟩ => ⟨c, List.mem_append_left _ hc⟩) (List.mem_append_left _)

end Ending

namespace Pump

/-- What a pump ended with, and what it holds of the process, rest on what it has seen. -/
structure Grounded (bounds : Bounds) (seen : List Sight) (p : Pump) : Prop where
  ending : ∀ e, p.ending = some e → e.Grounded bounds p.intake seen
  child : ∀ e, p.child = some e → e.Answered seen

theorem grounded_start (bounds : Bounds) : Grounded bounds [] {} where
  ending := fun _ h => by cases h
  child := fun _ h => by cases h

/-- Asking for the process keeps this. -/
theorem Grounded.settle {bounds : Bounds} {seen : List Sight} {p : Pump} (h : Grounded bounds seen p) :
    Grounded bounds seen p.settle where
  ending := by
    intro e he
    rw [intake_settle]
    rcases ending_settle p with hsame | hchild
    · exact h.ending e (hsame ▸ he)
    · exact (h.child e (hchild ▸ he)).grounded bounds p.intake
  child := by
    intro e he
    rw [child_settle] at he
    exact h.child e he

theorem Grounded.append {bounds : Bounds} {seen : List Sight} {p : Pump} (h : Grounded bounds seen p)
    (more : List Sight) : Grounded bounds (seen ++ more) p where
  ending := fun e he => (h.ending e he).append more
  child := fun e he => (h.child e he).append more

/-- One more sight keeps this. -/
theorem grounded_step {bounds : Bounds} {seen : List Sight} {p : Pump} (h : Grounded bounds seen p) (sight : Sight) :
    Grounded bounds (seen ++ [sight]) (step bounds p sight) := by
  have hmore := h.append [sight]
  have hsteps := steps_step bounds p sight
  generalize step bounds p sight = q at hsteps
  cases hsteps with
  | past _ => exact hmore
  | unread _ _ _ => exact hmore
  | closes hnone _ =>
    refine Grounded.settle ⟨fun e he => ?_, fun e he => ?_⟩
    · rw [ending_close, hnone] at he
      cases he
    · rw [child_close] at he
      exact hmore.child e he
  | @takes c chunk hnone _ _ =>
    refine ⟨fun e he => ?_, fun e he => ?_⟩
    · rcases ending_takeIn bounds p c chunk with hsame | ⟨hover, habort, hfull⟩
      · rw [hsame, hnone] at he
        cases he
      · obtain rfl : Ending.overflowed = e := Option.some.inj (hover.symm.trans he)
        exact ⟨habort, hfull⟩
    · rw [child_takeIn] at he
      exact hmore.child e he
  | @fails c reason _ _ =>
    refine ⟨fun e he => ?_, hmore.child⟩
    obtain rfl : Ending.failed reason = e := Option.some.inj he
    exact .inl ⟨c, List.mem_append_right _ List.mem_cons_self⟩
  | @answers _ e hnone hs =>
    refine Grounded.settle ⟨fun e' he => ?_, fun e' he => ?_⟩
    · rw [hnone] at he
      cases he
    · cases hchild : p.child with
      | none =>
        obtain rfl : e = e' := by simpa [hchild] using he
        exact Ending.answered_of_answer hs seen
      | some first =>
        obtain rfl : first = e' := by simpa [hchild] using he
        exact hmore.child first hchild

/-- Whatever a pump sees, how it ended rests on that. -/
theorem grounded_run (bounds : Bounds) (sights : List Sight) : ∀ (seen : List Sight) (p : Pump),
    Grounded bounds seen p → Grounded bounds (seen ++ sights) (run bounds p sights) := by
  induction sights with
  | nil =>
    intro seen p h
    rw [List.append_nil]
    exact h
  | cons sight rest ih =>
    intro seen p h
    rw [run_cons, List.append_cons]
    exact ih _ _ (grounded_step h sight)

/-- How a pump ended rests on the sights of its run. -/
theorem grounded_run_start (bounds : Bounds) (sights : List Sight) : Grounded bounds sights (run bounds {} sights) :=
  grounded_run bounds sights [] {} (grounded_start bounds)

end Pump

end QueryGateway
