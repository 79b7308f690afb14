import QueryGateway.Proofs.QueryVerdict
import QueryGateway.Shell.Host

/-!
# Exit and deadline

The process is asked for only when both channels have come to their ends, and whatever it left running may hold a
channel open. So an exit in time is not enough: a run whose process exits before the deadline is reported with its
status exactly when both channels end before the deadline too, and as timed out otherwise
(`Call.report_of_exit_in_time`). That an exit in time is never reported as timed out is false
(`report_times_out_after_exit`).
-/

namespace QueryGateway

namespace Sight

/-! ## Helpers: runs in two parts -/

theorem answer?_append (a b : List Sight) : answer? (a ++ b) = (answer? a).or (answer? b) := by
  induction a with
  | nil => rfl
  | cons sight rest ih => cases sight <;> simp [answer?, ih]

/-- The exit of the process is an answer. -/
theorem isSome_answer? {sights : List Sight} {status : WaitStatus} (h : .ended status ∈ sights) :
    (answer? sights).isSome = true := by
  induction sights with
  | nil => cases h
  | cons sight rest ih =>
    cases sight with
    | read c chunk => exact ih (by simpa using h)
    | readFailed c reason => exact ih (by simpa using h)
    | ended status => rfl
    | waitFailed reason => rfl

/-- What comes later takes nothing from what a channel delivered. -/
theorem delivered_prefix (c : Channel) (a b : List Sight) : delivered c a <+: delivered c (a ++ b) := by
  induction a with
  | nil => exact List.nil_prefix
  | cons sight rest ih =>
    cases sight with
    | read d chunk =>
      by_cases hd : d = c
      · by_cases hchunk : chunk = []
        · simp [delivered, hd, hchunk]
        · simpa [delivered, hd, hchunk] using ih
      · simpa [delivered, hd] using ih
    | readFailed d reason =>
      by_cases hd : d = c
      · simp [delivered, hd]
      · simpa [delivered, hd] using ih
    | ended status => exact ih
    | waitFailed reason => exact ih

/-- What delivers nothing on a channel adds nothing to it. -/
theorem delivered_append_silent {c : Channel} {b : List Sight} (h : delivered c b = []) (a : List Sight) :
    delivered c (a ++ b) = delivered c a := by
  induction a with
  | nil => exact h
  | cons sight rest ih => cases sight <;> simp [delivered, ih]

/-- Where no read fails a channel comes to its end in one part or in the other. -/
theorem reachesEnd_append {c : Channel} {a : List Sight} (h : ∀ d reason, .readFailed d reason ∉ a) (b : List Sight) :
    reachesEnd c (a ++ b) = (reachesEnd c a || reachesEnd c b) := by
  induction a with
  | nil => rfl
  | cons sight rest ih =>
    have hrest : ∀ d reason, .readFailed d reason ∉ rest := fun d reason hmem =>
      h d reason (List.mem_cons_of_mem _ hmem)
    cases sight with
    | read d chunk =>
      by_cases hd : d = c ∧ chunk = []
      · simp [reachesEnd, hd]
      · simpa [reachesEnd, hd] using ih hrest
    | readFailed d reason => exact absurd List.mem_cons_self (h d reason)
    | ended status => exact ih hrest
    | waitFailed reason => exact ih hrest

/-- The ends of both channels. -/
def bothEnds : List Sight := [.read .stdout [], .read .stderr []]

end Sight

/-! ## The pump after the exit of the process -/

/-- When the process has exited, no read has failed, and under `abort` all that was delivered fits, a pump has ended
with the status if both channels have come to their ends, and goes on otherwise: were it at another end, it would have
that one when both channels are closed on top, but there it sees the exit. -/
theorem Pump.ending_of_answered {bounds : Bounds} {sights : List Sight} {status : WaitStatus}
    (hread : ∀ c reason, .readFailed c reason ∉ sights) (hanswer : Sight.answer? sights = some (.exited status))
    (hfits : bounds.overflow = .abort →
      (Sight.delivered .stdout sights).length + (Sight.delivered .stderr sights).length ≤ bounds.outputLimit) :
    ((∀ c, Sight.reachesEnd c sights = true) → (run bounds {} sights).ending = some (.exited status)) ∧
      ((∃ c, Sight.reachesEnd c sights = false) → (run bounds {} sights).ending = none) := by
  constructor
  · intro hends
    refine (ending_exited_iff bounds sights status).2 ⟨⟨hends, hanswer⟩, fun habort => ?_⟩
    rw [Sight.length_arrived hends]
    exact hfits habort
  · rintro ⟨c, hopen⟩
    have hends : ∀ c, Sight.reachesEnd c (sights ++ Sight.bothEnds) = true := by
      intro c
      rw [Sight.reachesEnd_append hread]
      cases c <;> simp [Sight.bothEnds, Sight.reachesEnd]
    have hdone : (run bounds {} (sights ++ Sight.bothEnds)).ending = some (.exited status) := by
      refine (ending_exited_iff bounds _ status).2 ⟨⟨hends, ?_⟩, fun habort => ?_⟩
      · rw [Sight.answer?_append, hanswer]
        rfl
      · rw [Sight.length_arrived hends, Sight.delivered_append_silent (by rfl), Sight.delivered_append_silent (by rfl)]
        exact hfits habort
    cases hending : (run bounds {} sights).ending with
    | none => rfl
    | some e =>
      have hsame : run bounds {} (sights ++ Sight.bothEnds) = run bounds {} sights := by
        rw [run, List.foldl_append]
        exact run_of_ended bounds Sight.bothEnds hending
      rw [hsame] at hdone
      have hreached := ((ending_exited_iff bounds sights status).1 hdone).1.ends c
      rw [hopen] at hreached
      cases hreached

/-! ## Runs with their times -/

/-- What the gateway gets to see of a run before the deadline of its call. -/
def Call.seen (call : Call) (timeline : List (Nat × Sight)) : List Sight :=
  (Shell.Host.before call.bounds.timeout.nanoseconds timeline).map Prod.snd

/-- The process of a run exits by itself with a status before the deadline, no read fails, and under `abort` all that is
ever printed fits below the limit. When the channels come to their ends, and whether they do, is left open. -/
structure ExitsInTime (bounds : Bounds) (timeline : List (Nat × Sight)) (status : WaitStatus) : Prop where
  ordered : timeline.Pairwise fun a b => a.1 ≤ b.1
  inTime : ∃ time, (time, .ended status) ∈ timeline ∧ time < bounds.timeout.nanoseconds
  answered : Sight.answer? (timeline.map Prod.snd) = some (.exited status)
  readable : ∀ c reason, .readFailed c reason ∉ timeline.map Prod.snd
  fits : bounds.overflow = .abort →
    (Sight.delivered .stdout (timeline.map Prod.snd)).length +
      (Sight.delivered .stderr (timeline.map Prod.snd)).length ≤ bounds.outputLimit

/-- In a run told in the order of its times, what happens before the deadline is among what is seen before it. -/
theorem mem_before {deadline : Nat} {timeline : List (Nat × Sight)} (h : timeline.Pairwise fun a b => a.1 ≤ b.1)
    {x : Nat × Sight} (hx : x ∈ timeline) (hlt : x.1 < deadline) : x ∈ Shell.Host.before deadline timeline := by
  induction timeline with
  | nil => cases hx
  | cons y rest ih =>
    obtain ⟨hy, hrest⟩ := List.pairwise_cons.1 h
    have hfirst : y.1 < deadline := by
      rcases List.mem_cons.1 hx with rfl | hmem
      · exact hlt
      · exact Nat.lt_of_le_of_lt (hy x hmem) hlt
    rw [Shell.Host.before, List.takeWhile_cons_of_pos (by simpa using hfirst)]
    rcases List.mem_cons.1 hx with rfl | hmem
    · exact List.mem_cons_self
    · exact List.mem_cons_of_mem _ (ih hrest hmem)

/-- What is seen is the first part of all that happens. -/
theorem Call.seen_prefix (call : Call) (timeline : List (Nat × Sight)) :
    call.seen timeline <+: timeline.map Prod.snd :=
  (List.takeWhile_prefix _).map _

/-- A run whose process exits in time is reported with the status of the process if both channels come to their ends in
time as well, and as timed out if one of them does not. -/
theorem Call.report_of_exit_in_time (call : Call) {timeline : List (Nat × Sight)} {status : WaitStatus}
    (duration : Int) (h : ExitsInTime call.bounds timeline status) :
    ((∀ c, Sight.reachesEnd c (call.seen timeline) = true) →
        (call.report (.started (call.seen timeline)) duration).killedByTimeout = false ∧
        (call.report (.started (call.seen timeline)) duration).fault = status.fault?) ∧
      ((∃ c, Sight.reachesEnd c (call.seen timeline) = false) →
        (call.report (.started (call.seen timeline)) duration).killedByTimeout = true ∧
        (call.report (.started (call.seen timeline)) duration).fault =
          some (.timedOut call.bounds.timeout.unsignedMilliseconds)) := by
  obtain ⟨later, hlater⟩ := call.seen_prefix timeline
  obtain ⟨time, hexit, htime⟩ := h.inTime
  have hseen : .ended status ∈ call.seen timeline :=
    List.mem_map.2 ⟨_, mem_before h.ordered hexit htime, rfl⟩
  have hread : ∀ c reason, .readFailed c reason ∉ call.seen timeline := fun c reason hmem =>
    h.readable c reason (hlater ▸ List.mem_append_left later hmem)
  have hanswer : Sight.answer? (call.seen timeline) = some (.exited status) := by
    have hwhole := h.answered
    rw [← hlater, Sight.answer?_append] at hwhole
    obtain ⟨e, he⟩ := Option.isSome_iff_exists.1 (Sight.isSome_answer? hseen)
    rw [he] at hwhole ⊢
    exact hwhole
  have hfits : call.bounds.overflow = .abort →
      (Sight.delivered .stdout (call.seen timeline)).length + (Sight.delivered .stderr (call.seen timeline)).length ≤
        call.bounds.outputLimit := by
    intro habort
    have hout := (Sight.delivered_prefix .stdout (call.seen timeline) later).length_le
    have herr := (Sight.delivered_prefix .stderr (call.seen timeline) later).length_le
    rw [hlater] at hout herr
    have hwhole := h.fits habort
    omega
  have hpump := Pump.ending_of_answered hread hanswer hfits
  constructor
  · intro hends
    simp [report, hpump.1 hends, faultOf]
  · intro hopen
    simp [report, hpump.2 hopen, faultOf]

/-- A process that exits with code three after four milliseconds while something it left running keeps the second
channel open for most of the half second that is allowed. -/
theorem report_of_exit_before_channel :
    let call : Call := ⟨.ofString "jqlite", [], ⟨.ofMilliseconds 500, 3, .abort⟩⟩
    let timeline : List (Nat × Sight) :=
      [(3000000, .read .stdout [0x34, 0x32]), (4000000, .ended (.ofCode 3)), (5000000, .read .stdout []),
        (499000000, .read .stderr [0x0A]), (499999999, .read .stderr [])]
    ExitsInTime call.bounds timeline (.ofCode 3) ∧
      (call.report (.started (call.seen timeline)) 500).killedByTimeout = false ∧
      (call.report (.started (call.seen timeline)) 500).fault = some (.exitCode 3) := by
  intro call timeline
  have h : ExitsInTime call.bounds timeline (.ofCode 3) :=
    ⟨by decide, ⟨4000000, by decide, by decide⟩, rfl, by simp [timeline], fun _ => by decide⟩
  exact ⟨h, (call.report_of_exit_in_time 500 h).1 fun c => by cases c <;> rfl⟩

/-- An exit in time may be reported as timed out: the process ends after four milliseconds, and what it left running
holds both channels for two seconds, of which half a second is allowed. -/
theorem report_times_out_after_exit :
    ¬∀ (call : Call) (timeline : List (Nat × Sight)) (status : WaitStatus) (duration : Int),
      ExitsInTime call.bounds timeline status →
        (call.report (.started (call.seen timeline)) duration).killedByTimeout = false ∧
        (call.report (.started (call.seen timeline)) duration).fault = status.fault? := by
  intro h
  have hsaid := (h ⟨.ofString "jqlite", [], ⟨.ofMilliseconds 500, 3, .abort⟩⟩
    [(3000000, .read .stdout [0x34, 0x32, 0x0A]), (4000000, .ended ⟨0⟩), (2000000000, .read .stdout []),
      (2000000000, .read .stderr [])] ⟨0⟩ 500
    ⟨by decide, ⟨4000000, by decide, by decide⟩, rfl, by simp, fun _ => by decide⟩).1
  revert hsaid
  decide

end QueryGateway
