import Mathlib.Data.List.Induction
import QueryGateway.Engine.ReadLoop
import QueryGateway.Proofs.Pump

/-!
# Both channels are drained

The reading loop hands on what the channels bring, all of it, once, and each chunk on its own channel, however the reads
of the two are interleaved. When nothing stops it, it ends after one iteration for each read, the two ends included, and
waits for the process only then. Under `abort` it stops at the first read that does not fit, and everywhere at the first
that fails (`ReadLoop.drains_channels`). It polls no channel that it has let go of, and the pump comes to the same end.

After turns that did not stop it, what the loop counts and keeps can be told from the turns alone (`ReadLoop.Tallies`);
one turn keeps that (`Ready.tallies_step`), and so does a run (`tallies_run`). What holds of the loop at all times is
`ReadLoop.Sound`.
-/

namespace QueryGateway
namespace ReadLoop

/-! ## What a schedule brings -/

namespace Turn

/-- What a turn shows to the pump. -/
def sight? : Turn → Option Sight
  | .idle _ => none
  | .sight s => some s

/-- The read that succeeds in a turn. -/
def read? : Turn → Option (Channel × Bytes)
  | .sight (.read channel chunk) => some (channel, chunk)
  | _ => none

/-- The channel that is read in a turn. -/
def channel? : Turn → Option Channel
  | .sight (.read channel _) => some channel
  | .sight (.readFailed channel _) => some channel
  | _ => none

/-- The channel that brings nothing more after a turn: it came to its end, or failed. -/
def last? : Turn → Option Channel
  | .sight (.read channel chunk) => if chunk = [] then some channel else none
  | .sight (.readFailed channel _) => some channel
  | _ => none

end Turn

/-- The sights of a schedule. -/
def sights (turns : List Turn) : List Sight :=
  turns.filterMap Turn.sight?

/-- The reads of a schedule that succeed. -/
def reads (turns : List Turn) : List (Channel × Bytes) :=
  turns.filterMap Turn.read?

/-- How many reads a schedule has, those that fail included. -/
def attempts (turns : List Turn) : Nat :=
  (turns.filterMap Turn.channel?).length

/-- The chunks of one channel. -/
def chunksOf (channel : Channel) (reads : List (Channel × Bytes)) : List Bytes :=
  (reads.filter (·.1 = channel)).map Prod.snd

/-- What is handed on in these acts. -/
def handed (acts : List Act) : List (Channel × Bytes) :=
  acts.filterMap fun
    | .handsOn channel chunk => some (channel, chunk)
    | _ => none

/-- A schedule in which nothing of a channel comes after its end or its failure, and no read brings more than a buffer
holds. -/
structure Orderly (turns : List Turn) : Prop where
  lasts : turns.Pairwise fun t u => ∀ c ∈ t.last?, u.channel? ≠ some c
  short : ∀ read ∈ reads turns, read.2.length ≤ bufferSize

/-- A schedule in which nothing stops the loop: no read fails, and under `abort` all that is read fits. -/
structure Untroubled (bounds : Bounds) (turns : List Turn) : Prop where
  unfailed : ∀ c reason, Turn.sight (.readFailed c reason) ∉ turns
  fits : bounds.overflow = .abort → (arrival (reads turns)).length ≤ bounds.outputLimit

/-- A turn that stops the loop after others that did not, and where the loop then is: a read that does not fit under
`abort`, or one that fails. -/
inductive Stops (bounds : Bounds) (before : List Turn) : Turn → Phase → Prop where
  | overflow {channel : Channel} {chunk : Bytes} : bounds.overflow = .abort →
      bounds.outputLimit < (arrival (reads before)).length + chunk.length →
      Stops bounds before (.sight (.read channel chunk)) .overflowed
  | failure {channel : Channel} {reason : String} :
      Stops bounds before (.sight (.readFailed channel reason)) (.failed reason)

variable {bounds : Bounds} {l : ReadLoop} {turns before : List Turn} {turn : Turn} {c : Channel} {chunk : Bytes}

theorem run_concat (bounds : Bounds) (l : ReadLoop) (turns : List Turn) (turn : Turn) :
    run bounds l (turns ++ [turn]) = step bounds (run bounds l turns) turn := by
  simp [run]

theorem reads_concat_of_some {read : Channel × Bytes} (h : turn.read? = some read) (turns : List Turn) :
    reads (turns ++ [turn]) = reads turns ++ [read] := by
  simp [reads, h]

theorem reads_concat_of_none (h : turn.read? = none) (turns : List Turn) : reads (turns ++ [turn]) = reads turns := by
  simp [reads, h]

theorem attempts_concat_of_some (h : turn.channel? = some c) (turns : List Turn) :
    attempts (turns ++ [turn]) = attempts turns + 1 := by
  simp [attempts, h]

theorem attempts_concat_of_none (h : turn.channel? = none) (turns : List Turn) :
    attempts (turns ++ [turn]) = attempts turns := by
  simp [attempts, h]

theorem Orderly.append_left {after : List Turn} (h : Orderly (before ++ after)) : Orderly before where
  lasts := (List.pairwise_append.1 h.lasts).1
  short := fun read hread => h.short read (by
    rw [reads, List.filterMap_append]
    exact List.mem_append_left _ hread)

/-- What is read in the last turn of an orderly schedule did not come to its end before. -/
theorem Orderly.end_not_mem (h : Orderly (turns ++ [turn])) (hturn : turn.channel? = some c) :
    (c, []) ∉ reads turns := by
  intro hmem
  obtain ⟨t, ht, hread⟩ := List.mem_filterMap.1 hmem
  have hlast : c ∈ t.last? := by
    match t, hread with
    | .sight (.read _ _), hread =>
      cases hread
      rfl
  exact (List.pairwise_append.1 h.lasts).2.2 t ht turn (List.mem_singleton_self turn) c hlast hturn

theorem Untroubled.append_left {after : List Turn} (h : Untroubled bounds (before ++ after)) :
    Untroubled bounds before where
  unfailed := fun c reason hmem => h.unfailed c reason (List.mem_append_left _ hmem)
  fits := fun habort => by
    have hfits := h.fits habort
    rw [reads, List.filterMap_append, arrival_append, List.length_append] at hfits
    exact Nat.le_of_add_right_le hfits

/-- Nothing stops the loop, or there is a first turn that does. What goes over the limit is a read, since nothing else
makes the arrival longer. -/
theorem untroubled_or_stops (bounds : Bounds) (turns : List Turn) :
    Untroubled bounds turns ∨ ∃ before turn after phase,
      turns = before ++ turn :: after ∧ Untroubled bounds before ∧ Stops bounds before turn phase := by
  induction turns using List.reverseRecOn with
  | nil => exact .inl ⟨fun _ _ => List.not_mem_nil, fun _ => Nat.zero_le _⟩
  | append_singleton turns turn ih =>
    obtain h | ⟨before, t, after, phase, rfl, hbefore, hstops⟩ := ih
    · by_cases hfailed : ∃ c reason, turn = .sight (.readFailed c reason)
      · obtain ⟨c, reason, rfl⟩ := hfailed
        exact .inr ⟨turns, _, [], _, rfl, h, .failure⟩
      have hunfailed : ∀ c reason, Turn.sight (.readFailed c reason) ∉ turns ++ [turn] := by
        intro c reason hmem
        rcases List.mem_append.1 hmem with hmem | hmem
        · exact h.unfailed c reason hmem
        · exact hfailed ⟨c, reason, (List.mem_singleton.1 hmem).symm⟩
      by_cases hover : bounds.overflow = .abort ∧ bounds.outputLimit < (arrival (reads (turns ++ [turn]))).length
      · obtain ⟨habort, hlong⟩ := hover
        have hfits := h.fits habort
        cases hread : turn.read? with
        | none =>
          rw [reads_concat_of_none hread] at hlong
          omega
        | some read =>
          match turn, hread with
          | .sight (.read c chunk), rfl =>
            rw [reads_concat_of_some rfl, arrival_append, List.length_append] at hlong
            refine .inr ⟨turns, _, [], _, rfl, h, .overflow habort ?_⟩
            simpa [arrival_cons] using hlong
      · exact .inl ⟨hunfailed, fun habort => Nat.le_of_not_lt fun hlong => hover ⟨habort, hlong⟩⟩
    · exact .inr ⟨before, t, after ++ [turn], phase, by simp, hbefore, hstops⟩

/-! ## What holds at all times -/

/-- No channel is polled after the loop let go of it. -/
def Quiet (acts : List Act) : Prop :=
  ∀ c, acts.Pairwise fun a b => a = .letsGo c → b ≠ .polls c

theorem Quiet.concat {acts : List Act} {a : Act} (h : Quiet acts) (ha : ∀ c, a = .polls c → .letsGo c ∉ acts) :
    Quiet (acts ++ [a]) := by
  intro c
  refine List.pairwise_append.2 ⟨h c, List.pairwise_singleton _ _, fun b hb a' ha' hgo hpolls => ?_⟩
  obtain rfl := List.mem_singleton.1 ha'
  exact ha c hpolls (hgo ▸ hb)

/-- What holds of the loop at all times. -/
structure Sound (l : ReadLoop) : Prop where
  size : ∀ c, (l.buffers.get c).length = bufferSize
  reading : l.phase = .reading → ∃ c, l.opened.get c = true
  waiting : l.phase = .waiting → ∀ c, l.opened.get c = false
  gone : ∀ c, l.opened.get c = false ↔ .letsGo c ∈ l.acts
  quiet : Quiet l.acts
  waits : l.phase = .waiting → ∃ acts, l.acts = acts ++ [.waits] ∧ .waits ∉ acts
  unwaited : l.phase ≠ .waiting → .waits ∉ l.acts

theorem polls_iff : l.polls c = true ↔ l.phase = .reading ∧ l.opened.get c = true := by
  simp [polls]

/-- Nothing has stopped the loop: it reads on, or waits for the process. -/
def Going (l : ReadLoop) : Prop :=
  l.phase = .reading ∨ l.phase = .waiting

theorem sound_start : Sound {} where
  size := by intro c; cases c <;> exact List.length_replicate
  reading := fun _ => ⟨.stdout, rfl⟩
  waiting := nofun
  gone := by intro c; cases c <;> simp [PerChannel.get]
  quiet := fun _ => .nil
  waits := nofun
  unwaited := fun _ => List.not_mem_nil

/-- A buffer keeps its size. -/
theorem length_overwrite (buffer chunk : Bytes) : (overwrite buffer chunk).length = buffer.length := by
  simp only [overwrite, List.length_append, List.length_take, List.length_drop]
  omega

/-- The front of the buffer is the chunk that was read into it. -/
theorem take_fill (h : l.Sound) (hshort : chunk.length ≤ bufferSize) :
    ((l.fill c chunk).buffers.get c).take chunk.length = chunk := by
  have hroom : chunk.length ≤ (l.buffers.get c).length := by
    rw [h.size c]
    exact hshort
  rw [fill, PerChannel.get_set, if_pos rfl, overwrite, List.take_of_length_le hroom, List.take_left]

theorem Sound.polled (h : l.Sound) (hpolls : l.polls c = true) : (l.act (.polls c)).Sound := by
  obtain ⟨hphase, hopen⟩ := polls_iff.1 hpolls
  have hwaiting : l.phase ≠ .waiting := by simp [hphase]
  refine ⟨h.size, h.reading, h.waiting, fun d => ?_, h.quiet.concat fun d hd => ?_, fun hw => absurd hw hwaiting,
    fun hw => ?_⟩
  · rw [act, List.mem_append]
    simpa using h.gone d
  · cases hd
    rw [← h.gone c, hopen]
    nofun
  · simpa [act] using h.unwaited hw

theorem Sound.fill (h : l.Sound) (c : Channel) (chunk : Bytes) : (l.fill c chunk).Sound := by
  refine { h with size := fun d => ?_ }
  rw [ReadLoop.fill, PerChannel.get_set]
  split
  · rw [length_overwrite, h.size]
  · exact h.size d

theorem Sound.handOn (h : l.Sound) (hphase : l.phase = .reading) (bounds : Bounds) (c : Channel) (count : Nat) :
    (l.handOn bounds c count).Sound := by
  have hgone : ∀ chunk d, l.opened.get d = false ↔ .letsGo d ∈ l.acts ++ [.handsOn c chunk] := by
    intro chunk d
    simpa using h.gone d
  have hunwaited : ∀ chunk, Act.waits ∉ l.acts ++ [.handsOn c chunk] := by
    intro chunk
    simpa using h.unwaited (by simp [hphase])
  have hquiet : ∀ chunk, Quiet (l.acts ++ [.handsOn c chunk]) := fun chunk => h.quiet.concat nofun
  unfold ReadLoop.handOn
  dsimp only
  split
  · exact ⟨h.size, nofun, nofun, hgone _, hquiet _, nofun, fun _ => hunwaited _⟩
  · refine ⟨h.size, h.reading, h.waiting, hgone _, hquiet _, fun hw => ?_, fun _ => hunwaited _⟩
    exact absurd (hphase.symm.trans hw) nofun

theorem Sound.letGo (h : l.Sound) (hphase : l.phase = .reading) (c : Channel) : (l.letGo c).Sound := by
  have hgone : ∀ d, (l.opened.set c false).get d = false ↔ .letsGo d ∈ l.acts ++ [.letsGo c] := by
    intro d
    rw [PerChannel.get_set, List.mem_append, ← h.gone d]
    by_cases hd : d = c <;> simp [hd]
  have hunwaited : Act.waits ∉ l.acts ++ [.letsGo c] := by
    simpa using h.unwaited (by simp [hphase])
  have hquiet : Quiet (l.acts ++ [.letsGo c]) := h.quiet.concat nofun
  unfold ReadLoop.letGo
  dsimp only [act]
  split
  case isTrue hopen =>
    refine ⟨h.size, fun _ => PerChannel.any_eq_true_iff.1 hopen, fun hw => ?_, hgone, hquiet, fun hw => ?_,
      fun _ => hunwaited⟩
    · exact absurd (hphase.symm.trans hw) nofun
    · exact absurd (hphase.symm.trans hw) nofun
  case isFalse hclosed =>
    refine ⟨h.size, nofun, fun _ d => ?_, fun d => ?_, hquiet.concat nofun, fun _ => ⟨_, rfl, hunwaited⟩,
      fun hw => absurd rfl hw⟩
    · exact Bool.eq_false_iff.2 fun hd => hclosed (PerChannel.any_eq_true_iff.2 ⟨d, hd⟩)
    · rw [List.mem_append]
      simpa using hgone d

/-- One turn keeps what holds at all times. -/
theorem Sound.step (h : l.Sound) (bounds : Bounds) (turn : Turn) : (l.step bounds turn).Sound := by
  match turn with
  | .idle c =>
    rw [ReadLoop.step]
    split
    case isTrue hpolls => exact h.polled hpolls
    case isFalse => exact h
  | .sight (.read c chunk) =>
    rw [ReadLoop.step]
    split
    case isTrue hpolls =>
      have hfilled := (h.polled hpolls).fill c chunk
      unfold receive
      split
      · exact hfilled.letGo (polls_iff.1 hpolls).1 c
      · exact hfilled.handOn (polls_iff.1 hpolls).1 bounds c _
    case isFalse => exact h
  | .sight (.readFailed c reason) =>
    rw [ReadLoop.step]
    split
    case isTrue hpolls =>
      have hpolled := h.polled hpolls
      have hwaiting : l.phase ≠ .waiting := by simp [(polls_iff.1 hpolls).1]
      exact ⟨h.size, nofun, nofun, hpolled.gone, hpolled.quiet, nofun, fun _ => hpolled.unwaited hwaiting⟩
    case isFalse => exact h
  | .sight (.ended status) => exact ⟨h.size, h.reading, h.waiting, h.gone, h.quiet, h.waits, h.unwaited⟩
  | .sight (.waitFailed reason) => exact ⟨h.size, h.reading, h.waiting, h.gone, h.quiet, h.waits, h.unwaited⟩

theorem sound_run (bounds : Bounds) (turns : List Turn) : (run bounds {} turns).Sound := by
  induction turns using List.reverseRecOn with
  | nil => exact sound_start
  | append_singleton turns turn ih =>
    rw [run_concat]
    exact ih.step bounds turn

/-! ## What the loop counts and keeps -/

/-- What the loop counts and keeps is what the turns brought: an iteration for each read, each chunk handed on, and the
intake of it all. It has let go of the channels that came to their ends. -/
structure Tallies (bounds : Bounds) (turns : List Turn) (l : ReadLoop) : Prop where
  opened : ∀ c, l.opened.get c = true ↔ (c, []) ∉ reads turns
  iterations : l.iterations = attempts turns
  handed : handed l.acts = (reads turns).filter (·.2 ≠ [])
  intake : l.intake = .ofArrival bounds.outputLimit (arrival (reads turns))

theorem tallies_start (bounds : Bounds) : Tallies bounds [] {} where
  opened := by intro c; cases c <;> simp [PerChannel.get, reads]
  iterations := rfl
  handed := rfl
  intake := (Intake.ofArrival_nil _).symm

/-- The end of a channel that is polled: the loop lets go of it, and waits for the process if it has no other. -/
theorem step_end (hpolls : l.polls c = true) (bounds : Bounds) :
    l.step bounds (.sight (.read c [])) =
      { l.fill c [] with
        opened := l.opened.set c false,
        phase := if (l.opened.set c false).any then .reading else .waiting,
        acts := l.acts ++ .polls c :: .letsGo c :: if (l.opened.set c false).any then [] else [.waits] } := by
  have hphase := (polls_iff.1 hpolls).1
  simp only [step, hpolls, if_true, receive, List.length_nil]
  by_cases hmore : (l.opened.set c false).any = true <;> simp [letGo, act, fill, hmore, hphase]

/-- A chunk of a channel that is polled: the loop hands it on, and stops if not all of it fits under `abort`. -/
theorem step_chunk (h : l.Sound) (hpolls : l.polls c = true) (hchunk : chunk ≠ []) (hshort : chunk.length ≤ bufferSize)
    (bounds : Bounds) :
    l.step bounds (.sight (.read c chunk)) =
      { l.fill c chunk with
        intake := l.intake.take bounds.outputLimit c chunk,
        phase :=
          if (l.intake.take bounds.outputLimit c chunk).overflowed ∧ bounds.overflow = .abort then .overflowed
          else .reading,
        acts := l.acts ++ [.polls c, .handsOn c chunk] } := by
  have hphase := (polls_iff.1 hpolls).1
  have hcount : chunk.length ≠ 0 := mt List.length_eq_zero_iff.1 hchunk
  have hslice := take_fill (h.polled hpolls) (c := c) hshort
  simp only [step, hpolls, if_true, receive, hcount, if_false, handOn, hslice]
  split
  · simp_all [act, fill]
  · simp_all [act, fill]

/-- A loop that these turns did not stop, before the next turn of the schedule: a read finds the loop at its channel, and
brings no more than the buffer holds. -/
structure Ready (bounds : Bounds) (turns : List Turn) (turn : Turn) (l : ReadLoop) : Prop extends
    Tallies bounds turns l where
  sound : l.Sound
  going : l.Going
  polls : ∀ c, turn.channel? = some c → l.polls c = true
  short : ∀ read ∈ turn.read?, read.2.length ≤ bufferSize

/-- One turn keeps what the loop counts and keeps in step with the turns. -/
theorem Ready.tallies_step (h : Ready bounds turns turn l) :
    Tallies bounds (turns ++ [turn]) (l.step bounds turn) := by
  match turn with
  | .idle c =>
    have hreads : reads (turns ++ [.idle c]) = reads turns := reads_concat_of_none rfl turns
    have hattempts : attempts (turns ++ [.idle c]) = attempts turns := attempts_concat_of_none rfl turns
    rw [ReadLoop.step]
    split
    · refine ⟨hreads ▸ h.opened, hattempts ▸ h.iterations, ?_, hreads ▸ h.intake⟩
      rw [hreads, ← h.handed]
      simp [act, ReadLoop.handed]
    · exact ⟨hreads ▸ h.opened, hattempts ▸ h.iterations, hreads ▸ h.handed, hreads ▸ h.intake⟩
  | .sight (.read c chunk) =>
    have hpoll := h.polls c rfl
    have hreads : reads (turns ++ [.sight (.read c chunk)]) = reads turns ++ [(c, chunk)] :=
      reads_concat_of_some rfl turns
    have hiterations : l.iterations + 1 = attempts (turns ++ [.sight (.read c chunk)]) := by
      rw [attempts_concat_of_some rfl, h.iterations]
    by_cases hchunk : chunk = []
    · subst hchunk
      rw [step_end hpoll bounds]
      refine ⟨fun d => ?_, hiterations, ?_, ?_⟩
      · rw [PerChannel.get_set, hreads]
        by_cases hd : d = c
        · simp [hd]
        · simp [hd, h.opened d]
      · rw [hreads, List.filter_append, ← h.handed]
        split <;> simp [ReadLoop.handed]
      · rw [hreads, arrival_append]
        simpa [arrival_cons, fill] using h.intake
    · rw [step_chunk h.sound hpoll hchunk (h.short (c, chunk) rfl) bounds]
      refine ⟨fun d => ?_, hiterations, ?_, ?_⟩
      · rw [hreads, List.mem_append, List.mem_singleton, Prod.mk.injEq]
        simpa [Ne.symm hchunk, fill] using h.opened d
      · rw [hreads, List.filter_append, ← h.handed]
        simp [ReadLoop.handed, hchunk]
      · rw [hreads, arrival_append, arrival_cons, arrival_nil, List.append_nil, ← Intake.take_ofArrival, ← h.intake]
  | .sight (.readFailed c reason) =>
    have hreads : reads (turns ++ [.sight (.readFailed c reason)]) = reads turns := reads_concat_of_none rfl turns
    rw [ReadLoop.step, if_pos (h.polls c rfl)]
    refine ⟨hreads ▸ h.opened, ?_, ?_, hreads ▸ h.intake⟩
    · rw [attempts_concat_of_some rfl, ← h.iterations]
    · rw [hreads, ← h.handed]
      simp [act, ReadLoop.handed]
  | .sight (.ended _) | .sight (.waitFailed _) =>
    rw [ReadLoop.step]
    refine ⟨?_, ?_, ?_, ?_⟩
    · rw [reads_concat_of_none rfl]
      exact h.opened
    · rw [attempts_concat_of_none rfl]
      exact h.iterations
    · rw [reads_concat_of_none rfl]
      exact h.handed
    · rw [reads_concat_of_none rfl]
      exact h.intake

/-- A turn that does not stop the loop leaves it going. -/
theorem Ready.going_step (h : Ready bounds turns turn l) (hfits : Untroubled bounds (turns ++ [turn])) :
    (l.step bounds turn).Going := by
  match turn with
  | .idle c =>
    rw [ReadLoop.step]
    split <;> exact h.going
  | .sight (.read c chunk) =>
    have hpoll := h.polls c rfl
    by_cases hchunk : chunk = []
    · subst hchunk
      rw [step_end hpoll bounds]
      dsimp only
      split
      · exact .inl rfl
      · exact .inr rfl
    · have hnot : ¬((l.intake.take bounds.outputLimit c chunk).overflowed = true ∧ bounds.overflow = .abort) := by
        rintro ⟨hover, habort⟩
        have hlong := hfits.fits habort
        rw [reads_concat_of_some rfl, arrival_append, arrival_cons, arrival_nil, List.append_nil] at hlong
        rw [h.intake, Intake.take_ofArrival, Intake.ofArrival, decide_eq_true_eq] at hover
        omega
      rw [step_chunk h.sound hpoll hchunk (h.short (c, chunk) rfl) bounds]
      exact .inl (if_neg hnot)
  | .sight (.readFailed c reason) =>
    exact absurd (List.mem_append_right _ (List.mem_singleton_self _)) (hfits.unfailed c reason)
  | .sight (.ended _) | .sight (.waitFailed _) => exact h.going

/-- A turn that stops the loop leaves it stopped. -/
theorem Ready.phase_step (h : Ready bounds before turn l) (hbefore : Untroubled bounds before) {phase : Phase}
    (hstops : Stops bounds before turn phase) : (l.step bounds turn).phase = phase := by
  cases hstops with
  | @overflow c chunk habort hlong =>
    have hchunk : chunk ≠ [] := by
      rintro rfl
      have := hbefore.fits habort
      simp at hlong
      omega
    have hover : (l.intake.take bounds.outputLimit c chunk).overflowed = true := by
      rw [h.intake, Intake.take_ofArrival, Intake.ofArrival, decide_eq_true_eq, List.length_append, List.length_map]
      exact hlong
    rw [step_chunk h.sound (h.polls c rfl) hchunk (h.short (c, chunk) rfl) bounds]
    exact if_pos ⟨hover, habort⟩
  | @failure c reason => rw [ReadLoop.step, if_pos (h.polls c rfl)]

/-- In an orderly schedule a read finds the loop at its channel, as long as nothing stopped the loop before. -/
theorem Tallies.ready (h : Tallies bounds turns l) (hsound : l.Sound) (hgoing : l.Going)
    (horderly : Orderly (turns ++ [turn])) : Ready bounds turns turn l where
  toTallies := h
  sound := hsound
  going := hgoing
  polls := by
    intro c hc
    have hopen := (h.opened c).2 (horderly.end_not_mem hc)
    refine polls_iff.2 ⟨hgoing.resolve_right fun hwaiting => ?_, hopen⟩
    rw [hsound.waiting hwaiting c] at hopen
    cases hopen
  short := by
    intro read hread
    refine horderly.short read ?_
    rw [reads_concat_of_some hread]
    exact List.mem_append_right _ (List.mem_singleton_self read)

/-- After turns that did not stop it the loop is going, and has counted and kept what they brought. -/
theorem tallies_run (h : Orderly turns) (hfits : Untroubled bounds turns) :
    Tallies bounds turns (run bounds {} turns) ∧ (run bounds {} turns).Going := by
  induction turns using List.reverseRecOn with
  | nil => exact ⟨tallies_start bounds, .inl rfl⟩
  | append_singleton turns turn ih =>
    obtain ⟨htallies, hgoing⟩ := ih h.append_left hfits.append_left
    have hready := htallies.ready (sound_run bounds turns) hgoing h
    rw [run_concat]
    exact ⟨hready.tallies_step, hready.going_step hfits⟩

/-- A loop that does not read any more only learns what the process answers. -/
theorem step_of_not_reading (bounds : Bounds) (h : l.phase ≠ .reading) (turn : Turn) :
    l.step bounds turn = { l with child := l.child <|> Sight.answer? turn.sight?.toList } := by
  have hpolls : ∀ c, l.polls c = false := fun c => by simp [polls, h]
  match turn with
  | .idle c => simp [step, hpolls c, Turn.sight?, Sight.answer?]
  | .sight (.read c chunk) => simp [step, hpolls c, Turn.sight?, Sight.answer?]
  | .sight (.readFailed c reason) => simp [step, hpolls c, Turn.sight?, Sight.answer?]
  | .sight (.ended _) | .sight (.waitFailed _) => rfl

theorem run_of_not_reading (bounds : Bounds) (h : l.phase ≠ .reading) (turns : List Turn) :
    ∃ child, run bounds l turns = { l with child := child } := by
  induction turns using List.reverseRecOn with
  | nil => exact ⟨l.child, rfl⟩
  | append_singleton turns turn ih =>
    obtain ⟨child, ih⟩ := ih
    have hstill : phase { l with child := child } ≠ .reading := h
    rw [run_concat, ih, step_of_not_reading bounds hstill]
    exact ⟨_, rfl⟩

/-! ## The pump -/

/-- A pump and a loop that saw the same: they took in the same, came to the same end, and as long as nothing stopped them
they have the same channels and the same answer of the process. -/
structure Mirrors (p : Pump) (l : ReadLoop) : Prop where
  intake : p.intake = l.intake
  ending : p.ending = l.outcome
  going : l.Going → p.child = l.child ∧ ∀ c, p.isOpen c = l.opened.get c

theorem mirrors_start : Mirrors {} {} where
  intake := rfl
  ending := rfl
  going := fun _ => ⟨rfl, fun c => by cases c <;> rfl⟩

/-- As long as nothing stops it, a loop reads on while it has a channel, and waits when it has none. -/
theorem Sound.phase_eq (h : l.Sound) (hgoing : l.Going) :
    l.phase = if l.opened.any then .reading else .waiting := by
  rcases hgoing with hreading | hwaiting
  · rw [if_pos (PerChannel.any_eq_true_iff.2 (h.reading hreading)), hreading]
  · rw [if_neg, hwaiting]
    intro hany
    obtain ⟨c, hc⟩ := PerChannel.any_eq_true_iff.1 hany
    rw [h.waiting hwaiting c] at hc
    cases hc

/-- A pump with the channels and the answer of a loop asks for the process when the loop waits for it. -/
theorem mirrors_settle {p : Pump} (hintake : p.intake = l.intake) (hending : p.ending = none) (hchild : p.child = l.child)
    (hopen : ∀ c, p.isOpen c = l.opened.get c) (hphase : l.phase = if l.opened.any then .reading else .waiting) :
    Mirrors p.settle l := by
  have hout : p.stdoutOpen = l.opened.stdout := hopen .stdout
  have herr : p.stderrOpen = l.opened.stderr := hopen .stderr
  have hsame : (p.stdoutOpen || p.stderrOpen) = l.opened.any := by rw [hout, herr, PerChannel.any]
  rw [Pump.settle, hsame]
  by_cases hany : l.opened.any = true
  · rw [if_pos hany] at hphase ⊢
    exact ⟨hintake, by rw [hending, outcome, hphase], fun _ => ⟨hchild, hopen⟩⟩
  · rw [if_neg hany] at hphase ⊢
    exact ⟨hintake, by rw [outcome, hphase]; exact hchild, fun _ => ⟨hchild, hopen⟩⟩

section
variable {p : Pump}

/-- Pump and loop that have come to their ends stay as they are. -/
theorem Mirrors.step_of_ended (h : Mirrors p l) {e : Ending} (hended : p.ending = some e) (bounds : Bounds)
    (turn : Turn) : Mirrors (Pump.run bounds p turn.sight?.toList) (l.step bounds turn) := by
  have houtcome : l.outcome = some e := h.ending.symm.trans hended
  have hphase : l.phase ≠ .reading := by
    intro hreading
    simp [outcome, hreading] at houtcome
  have hchild : l.phase = .waiting → l.child = some e := by
    intro hwaiting
    simpa [outcome, hwaiting] using houtcome
  rw [Pump.run_of_ended bounds _ hended, step_of_not_reading bounds hphase]
  refine ⟨h.intake, ?_, fun hgoing => ?_⟩
  · rw [h.ending]
    cases hp : l.phase with
    | reading => exact absurd hp hphase
    | waiting => simp [outcome, hp, hchild hp]
    | overflowed => simp [outcome, hp]
    | failed reason => simp [outcome, hp]
  · have hwaiting := hgoing.resolve_left hphase
    obtain ⟨hsame, hopen⟩ := h.going hgoing
    exact ⟨by simp [hsame, hchild hwaiting], hopen⟩

/-- A channel that the loop does not poll shows neither of them anything. -/
theorem Mirrors.step_unpolled (h : Mirrors p l) (hsound : l.Sound) (hending : p.ending = none) (hgoing : l.Going)
    (hpolls : l.polls c ≠ true) (bounds : Bounds) {sight : Sight} (hc : (Turn.sight sight).channel? = some c) :
    Mirrors (p.step bounds sight) (l.step bounds (.sight sight)) := by
  have hclosed : p.isOpen c = false := by
    rw [(h.going hgoing).2 c]
    rcases hgoing with hreading | hwaiting
    · exact Bool.eq_false_iff.2 fun hopened => hpolls (polls_iff.2 ⟨hreading, hopened⟩)
    · exact hsound.waiting hwaiting c
  match sight, hc with
  | .read _ chunk, rfl =>
    have hpump : p.step bounds (.read c chunk) = p := by simp [Pump.step, hending, hclosed]
    rw [hpump, ReadLoop.step, if_neg hpolls]
    exact h
  | .readFailed _ reason, rfl =>
    have hpump : p.step bounds (.readFailed c reason) = p := by simp [Pump.step, hending, hclosed]
    rw [hpump, ReadLoop.step, if_neg hpolls]
    exact h

/-- The end of a channel closes it for both, and when it was the last one both turn to the process. -/
theorem Mirrors.step_end (h : Mirrors p l) (hending : p.ending = none) (hpolls : l.polls c = true) (bounds : Bounds) :
    Mirrors (p.step bounds (.read c [])) (l.step bounds (.sight (.read c []))) := by
  obtain ⟨hchild, hopen⟩ := h.going (.inl (polls_iff.1 hpolls).1)
  have hopened : p.isOpen c = true := (hopen c).trans (polls_iff.1 hpolls).2
  have hpump : p.step bounds (.read c []) = (p.close c).settle := by simp [Pump.step, hending, hopened]
  rw [hpump, ReadLoop.step_end hpolls bounds]
  refine mirrors_settle ?_ ?_ ?_ (fun d => ?_) rfl
  · cases c <;> exact h.intake
  · cases c <;> exact hending
  · rw [Pump.child_close]
    exact hchild
  · simp only [Pump.isOpen_close, PerChannel.get_set, hopen d]
    by_cases hd : d = c <;> simp [hd]

/-- A chunk is taken in by both, and stops both if it does not fit under `abort`. -/
theorem Mirrors.step_chunk (h : Mirrors p l) (hsound : l.Sound) (hending : p.ending = none) (hpolls : l.polls c = true)
    (hchunk : chunk ≠ []) (hshort : chunk.length ≤ bufferSize) (bounds : Bounds) :
    Mirrors (p.step bounds (.read c chunk)) (l.step bounds (.sight (.read c chunk))) := by
  obtain ⟨hchild, hopen⟩ := h.going (.inl (polls_iff.1 hpolls).1)
  have hopened : p.isOpen c = true := (hopen c).trans (polls_iff.1 hpolls).2
  have hpump : p.step bounds (.read c chunk) = p.takeIn bounds c chunk := by
    simp [Pump.step, hending, hopened, hchunk]
  rw [hpump, ReadLoop.step_chunk hsound hpolls hchunk hshort bounds, Pump.takeIn, h.intake]
  dsimp only
  split
  · exact ⟨rfl, rfl, by simp [Going]⟩
  · exact ⟨rfl, hending, fun _ => ⟨hchild, hopen⟩⟩

/-- A turn that finds neither at its end leaves both at one. -/
theorem Mirrors.step_of_going (h : Mirrors p l) (hsound : l.Sound) (hending : p.ending = none) (hgoing : l.Going)
    (hshort : ∀ read ∈ turn.read?, read.2.length ≤ bufferSize) (bounds : Bounds) :
    Mirrors (Pump.run bounds p turn.sight?.toList) (l.step bounds turn) := by
  obtain ⟨hchild, hopen⟩ := h.going hgoing
  match turn with
  | .idle c =>
    rw [ReadLoop.step]
    split
    · exact ⟨h.intake, h.ending, h.going⟩
    · exact h
  | .sight (.read c chunk) =>
    change Mirrors (p.step bounds (.read c chunk)) _
    by_cases hpolls : l.polls c = true
    · by_cases hchunk : chunk = []
      · subst hchunk
        exact h.step_end hending hpolls bounds
      · exact h.step_chunk hsound hending hpolls hchunk (hshort (c, chunk) rfl) bounds
    · exact h.step_unpolled hsound hending hgoing hpolls bounds rfl
  | .sight (.readFailed c reason) =>
    change Mirrors (p.step bounds (.readFailed c reason)) _
    by_cases hpolls : l.polls c = true
    · have hopened : p.isOpen c = true := (hopen c).trans (polls_iff.1 hpolls).2
      have hpump : p.step bounds (.readFailed c reason) = { p with ending := some (.failed reason) } := by
        simp [Pump.step, hending, hopened]
      rw [hpump, ReadLoop.step, if_pos hpolls]
      exact ⟨h.intake, rfl, by simp [Going]⟩
    · exact h.step_unpolled hsound hending hgoing hpolls bounds rfl
  | .sight (.ended status) =>
    have hpump : p.step bounds (.ended status) = Pump.settle { p with child := p.child <|> some (.exited status) } := by
      simp [Pump.step, hending]
    change Mirrors (p.step bounds (.ended status)) _
    rw [hpump, hchild]
    exact mirrors_settle h.intake hending rfl hopen (hsound.phase_eq hgoing)
  | .sight (.waitFailed reason) =>
    have hpump :
        p.step bounds (.waitFailed reason) = Pump.settle { p with child := p.child <|> some (.failed reason) } := by
      simp [Pump.step, hending]
    change Mirrors (p.step bounds (.waitFailed reason)) _
    rw [hpump, hchild]
    exact mirrors_settle h.intake hending rfl hopen (hsound.phase_eq hgoing)

/-- One turn keeps pump and loop at one. -/
theorem Mirrors.step (h : Mirrors p l) (hsound : l.Sound) (hshort : ∀ read ∈ turn.read?, read.2.length ≤ bufferSize)
    (bounds : Bounds) : Mirrors (Pump.run bounds p turn.sight?.toList) (l.step bounds turn) := by
  cases hending : p.ending with
  | some e => exact h.step_of_ended hending bounds turn
  | none =>
    have houtcome := h.ending.symm.trans hending
    refine h.step_of_going hsound hending ?_ hshort bounds
    cases hphase : l.phase with
    | reading => exact .inl hphase
    | waiting => exact .inr hphase
    | overflowed => simp [outcome, hphase] at houtcome
    | failed reason => simp [outcome, hphase] at houtcome

end

/-- Where no read brings more than a buffer holds, the pump and the loop come to the same end and take in the same. -/
theorem mirrors_run (bounds : Bounds) (h : ∀ read ∈ reads turns, read.2.length ≤ bufferSize) :
    Mirrors (Pump.run bounds {} (sights turns)) (run bounds {} turns) := by
  induction turns using List.reverseRecOn with
  | nil => exact mirrors_start
  | append_singleton turns turn ih =>
    have hsights : sights (turns ++ [turn]) = sights turns ++ turn.sight?.toList := by
      cases hs : turn.sight? <;> simp [sights, hs]
    have hreads : reads (turns ++ [turn]) = reads turns ++ turn.read?.toList := by
      cases hr : turn.read? <;> simp [reads, hr]
    rw [hreads] at h
    have hlast : ∀ read ∈ turn.read?, read.2.length ≤ bufferSize :=
      fun read hread => h read (List.mem_append_right _ (Option.mem_toList.2 hread))
    rw [hsights, Pump.run, List.foldl_append, run_concat]
    exact (ih fun read hread => h read (List.mem_append_left _ hread)).step (sound_run bounds turns) hlast bounds

/-! ## The loop as a whole -/

/-- A loop that read both channels to their ends: it has read each chunk and the two ends, one read an iteration, has
handed on the chunks of each channel, and after it let go of both it waits for the process, once. -/
structure Drains (l : ReadLoop) (chunks : PerChannel (List Bytes)) : Prop where
  phase : l.phase = .waiting
  iterations : l.iterations = chunks.stdout.length + 1 + (chunks.stderr.length + 1)
  handed : ∀ c, chunksOf c (handed l.acts) = chunks.get c
  waits : ∃ acts, l.acts = acts ++ [.waits] ∧ .waits ∉ acts ∧ ∀ c, .letsGo c ∈ acts

/-- A loop that was stopped, never to wait for the process, by the last of these turns: it has read what they bring, one
read an iteration, and has handed on all of it. -/
structure StoppedAt (l : ReadLoop) (turns : List Turn) (phase : Phase) : Prop where
  phase : l.phase = phase
  iterations : l.iterations = attempts turns
  handed : handed l.acts = (reads turns).filter (·.2 ≠ [])
  unwaited : .waits ∉ l.acts

/-- The reads of a schedule are those of its two channels. -/
theorem length_reads (reads : List (Channel × Bytes)) :
    (chunksOf .stdout reads).length + (chunksOf .stderr reads).length = reads.length := by
  induction reads with
  | nil => rfl
  | cons read reads ih =>
    obtain ⟨c, chunk⟩ := read
    cases c <;> simp [chunksOf] at ih ⊢ <;> omega

theorem attempts_of_untroubled (h : Untroubled bounds turns) : attempts turns = (reads turns).length := by
  induction turns using List.reverseRecOn with
  | nil => rfl
  | append_singleton turns turn ih =>
    have ih := ih h.append_left
    match turn with
    | .idle c => rw [attempts_concat_of_none rfl, reads_concat_of_none rfl, ih]
    | .sight (.read c chunk) =>
      rw [attempts_concat_of_some rfl, reads_concat_of_some rfl, ih, List.length_append, List.length_singleton]
    | .sight (.readFailed c reason) =>
      exact absurd (List.mem_append_right _ (List.mem_singleton_self _)) (h.unfailed c reason)
    | .sight (.ended _) | .sight (.waitFailed _) => rw [attempts_concat_of_none rfl, reads_concat_of_none rfl, ih]

/-- No chunk of a channel comes after one of no bytes, in an orderly schedule. -/
theorem Orderly.pairwise_chunksOf (h : Orderly turns) (c : Channel) :
    (chunksOf c (reads turns)).Pairwise fun chunk _ => chunk ≠ [] := by
  rw [chunksOf, List.pairwise_map, List.pairwise_filter, reads, List.pairwise_filterMap]
  refine h.lasts.imp ?_
  rintro t u hlast ⟨d, chunk⟩ ht ⟨d', chunk'⟩ hu hd hd' rfl
  match t, u, ht, hu with
  | .sight (.read _ _), .sight (.read _ _), rfl, rfl =>
    refine hlast d rfl (congrArg some ?_)
    exact (of_decide_eq_true hd').trans (of_decide_eq_true hd).symm

theorem chunksOf_filter (c : Channel) (reads : List (Channel × Bytes)) :
    chunksOf c (reads.filter (·.2 ≠ [])) = (chunksOf c reads).filter (· ≠ []) := by
  induction reads with
  | nil => rfl
  | cons read reads ih =>
    obtain ⟨d, chunk⟩ := read
    by_cases hd : d = c <;> by_cases hchunk : chunk = [] <;> simp_all [chunksOf]

/-- A loop that nothing stops drains the channels that come to their ends. -/
theorem drains_run (h : Orderly turns) (hfits : Untroubled bounds turns) {chunks : PerChannel (List Bytes)}
    (hchunks : ∀ c, chunksOf c (reads turns) = chunks.get c ++ [[]]) : Drains (run bounds {} turns) chunks := by
  obtain ⟨htallies, hphase⟩ := tallies_run h hfits
  have hsound := sound_run bounds turns
  have hclosed : ∀ c, (run bounds {} turns).opened.get c = false := by
    intro c
    refine Bool.eq_false_iff.2 fun hopen => (htallies.opened c).1 hopen ?_
    have hend : [] ∈ chunksOf c (reads turns) := by
      rw [hchunks c]
      exact List.mem_append_right _ (List.mem_singleton_self _)
    obtain ⟨⟨d, chunk⟩, hread, rfl⟩ := List.mem_map.1 hend
    obtain ⟨hmem, hd⟩ := List.mem_filter.1 hread
    obtain rfl : d = c := of_decide_eq_true hd
    exact hmem
  have hwaiting : (run bounds {} turns).phase = .waiting := by
    refine hphase.resolve_left fun hreading => ?_
    obtain ⟨c, hc⟩ := hsound.reading hreading
    rw [hclosed c] at hc
    cases hc
  refine ⟨hwaiting, ?_, fun c => ?_, ?_⟩
  · have hout := congrArg List.length (hchunks .stdout)
    have herr := congrArg List.length (hchunks .stderr)
    rw [List.length_append, List.length_singleton] at hout herr
    rw [htallies.iterations, attempts_of_untroubled hfits, ← length_reads, hout, herr]
    rfl
  · have hsome : ∀ chunk ∈ chunks.get c, chunk ≠ [] := by
      have hpairs := h.pairwise_chunksOf c
      rw [hchunks c] at hpairs
      exact fun chunk hchunk => (List.pairwise_append.1 hpairs).2.2 chunk hchunk [] (List.mem_singleton_self _)
    rw [htallies.handed, chunksOf_filter, hchunks c, List.filter_append,
      List.filter_eq_self.2 fun chunk hchunk => decide_eq_true (hsome chunk hchunk)]
    simp
  · obtain ⟨acts, hacts, honce⟩ := hsound.waits hwaiting
    refine ⟨acts, hacts, honce, fun c => ?_⟩
    have hgo := (hsound.gone c).1 (hclosed c)
    rw [hacts] at hgo
    simpa using hgo

/-- A loop is stopped by the first turn that stops it, whatever comes after. -/
theorem stoppedAt_run {after : List Turn} {phase : Phase} (h : Orderly (before ++ turn :: after))
    (hbefore : Untroubled bounds before) (hstops : Stops bounds before turn phase) :
    StoppedAt (run bounds {} (before ++ turn :: after)) (before ++ [turn]) phase := by
  have hsplit : before ++ turn :: after = (before ++ [turn]) ++ after := by simp
  rw [hsplit] at h ⊢
  have horderly := h.append_left
  obtain ⟨htallies, hgoing⟩ := tallies_run horderly.append_left hbefore
  have hready := htallies.ready (sound_run bounds before) hgoing horderly
  have hstopped := hready.phase_step hbefore hstops
  have htallied := hready.tallies_step
  have hphases : phase ≠ .reading ∧ phase ≠ .waiting := by cases hstops <;> exact ⟨nofun, nofun⟩
  have hunwaited := (hready.sound.step bounds turn).unwaited (hstopped ▸ hphases.2)
  obtain ⟨child, hrun⟩ := run_of_not_reading bounds (hstopped ▸ hphases.1) after
  have hwhole : run bounds {} (before ++ [turn] ++ after) =
      { step bounds (run bounds {} before) turn with child := child } := by
    rw [← hrun, ← run_concat]
    exact List.foldl_append
  rw [hwhole]
  exact ⟨hstopped, htallied.iterations, htallied.handed, hunwaited⟩

/-- In an orderly schedule the loop drains the channels if nothing stops it, and is stopped by the first turn that does;
one or the other is the case. It polls no channel after it let go of it, and the pump comes to the same end with the same
intake. -/
theorem drains_channels (bounds : Bounds) {turns : List Turn} (h : Orderly turns) :
    (Untroubled bounds turns → ∀ chunks : PerChannel (List Bytes),
      (∀ c, chunksOf c (reads turns) = chunks.get c ++ [[]]) → Drains (run bounds {} turns) chunks) ∧
    (∀ before turn after phase, turns = before ++ turn :: after → Untroubled bounds before →
      Stops bounds before turn phase → StoppedAt (run bounds {} turns) (before ++ [turn]) phase) ∧
    (Untroubled bounds turns ∨ ∃ before turn after phase,
      turns = before ++ turn :: after ∧ Untroubled bounds before ∧ Stops bounds before turn phase) ∧
    Quiet (run bounds {} turns).acts ∧
    (Pump.run bounds {} (sights turns)).ending = (run bounds {} turns).outcome ∧
    (Pump.run bounds {} (sights turns)).intake = (run bounds {} turns).intake := by
  have hmirrors := mirrors_run bounds h.short
  refine ⟨fun hfits _ hchunks => drains_run h hfits hchunks, ?_, untroubled_or_stops bounds turns,
    (sound_run bounds turns).quiet, hmirrors.ending, hmirrors.intake⟩
  rintro before turn after phase rfl hbefore hstops
  exact stoppedAt_run h hbefore hstops

/-- A chunk on each channel, the second channel at its end first. -/
def crossed : List Turn :=
  [.idle .stderr, .sight (.read .stdout [1, 2]), .sight (.read .stderr [3]), .sight (.read .stderr []),
    .sight (.ended (.ofCode 0)), .idle .stderr, .sight (.read .stdout [])]

/-- Such a schedule is drained in four iterations, and under a limit of two bytes stopped in the second. -/
theorem drains_channels_crossed :
    Orderly crossed ∧ Drains (run .standard {} crossed) ⟨[[1, 2]], [[3]]⟩ ∧ (run .standard {} crossed).iterations = 4 ∧
      StoppedAt (run { Bounds.standard with outputLimit := 2 } {} crossed) (crossed.take 3) .overflowed := by
  have horderly : Orderly crossed := ⟨by decide, by decide⟩
  have hunfailed : ∀ c reason, Turn.sight (.readFailed c reason) ∉ crossed := by simp [crossed]
  have hfits : Untroubled .standard crossed := ⟨hunfailed, by decide⟩
  have hbefore : Untroubled { Bounds.standard with outputLimit := 2 } (crossed.take 2) :=
    ⟨fun c reason hmem => hunfailed c reason (List.mem_of_mem_take hmem), by decide⟩
  have hdrains := (drains_channels .standard horderly).1 hfits ⟨[[1, 2]], [[3]]⟩ (by rintro (_ | _) <;> decide)
  have hstops := (drains_channels { Bounds.standard with outputLimit := 2 } horderly).2.1 (crossed.take 2) _ _ _ rfl
    hbefore (.overflow rfl (by decide))
  exact ⟨horderly, hdrains, hdrains.iterations, hstops⟩

end ReadLoop
end QueryGateway
