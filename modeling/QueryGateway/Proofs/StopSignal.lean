import Mathlib.Data.List.Induction
import QueryGateway.Gateway.Watchers

/-!
# What the signal tells those who watch it

However the sender and the watchers take their turns, every looker sees whether the signal was raised while it could
be, and every wait is over exactly when it was, or when nobody is left who could raise it (`Watch.Told`,
`signal_told`). One move keeps this (`Watch.sound_step`). The counted parties are watchers of whom nobody leaves
(`Parties.matched`), so the same holds of them.
-/

namespace QueryGateway.StopSignal

/-! ## What comes before what -/

/-- Somewhere in a list stands `a`, and no `b` stands before it. -/
def Precedes {α : Type} (a b : α) (l : List α) : Prop :=
  ∃ before after, l = before ++ a :: after ∧ b ∉ before

section
variable {α : Type} {a b x : α} {l : List α}

theorem not_precedes_nil : ¬ Precedes a b [] := by
  rintro ⟨before, after, h, -⟩
  simp at h

/-- The last of a list is its first `a` only when no `b` stands before it. -/
theorem precedes_concat : Precedes a b (l ++ [x]) ↔ Precedes a b l ∨ (x = a ∧ b ∉ l) := by
  constructor
  · rintro ⟨before, after, h, hb⟩
    rcases List.eq_nil_or_concat after with rfl | ⟨after, y, rfl⟩
    · obtain ⟨rfl, hx⟩ := List.append_inj' h rfl
      exact .inr ⟨List.cons.inj hx |>.1, hb⟩
    · rw [List.concat_eq_append, ← List.cons_append, ← List.append_assoc] at h
      exact .inl ⟨before, after, (List.append_inj' h rfl).1, hb⟩
  · rintro (⟨before, after, rfl, hb⟩ | ⟨rfl, hb⟩)
    · exact ⟨before, after ++ [x], by simp, hb⟩
    · exact ⟨l, [], rfl, hb⟩

theorem Precedes.append (h : Precedes a b l) (more : List α) : Precedes a b (l ++ more) := by
  obtain ⟨before, after, rfl, hb⟩ := h
  exact ⟨before, after ++ more, by simp, hb⟩

end

/-- The signal was raised before it was abandoned. -/
def RaisedInTime (moves : List Move) : Prop :=
  Precedes .raise .abandon moves

/-! ## The signal -/

theorem endsWait_raise {s : StopSignal} (h : s.endsWait = true) : s.raise.endsWait = true := by
  unfold raise
  split
  · exact h
  · rfl

theorem endsWait_abandon (s : StopSignal) : s.abandon.endsWait = true :=
  Bool.or_true _

theorem raised_raise_iff (s : StopSignal) : s.raise.raised = true ↔ s.raised = true ∨ s.abandoned = false := by
  cases h : s.abandoned <;> simp [raise, h]

@[simp] theorem abandoned_raise (s : StopSignal) : s.raise.abandoned = s.abandoned := by
  unfold raise
  split <;> rfl

namespace Watch

/-! ## One move -/

theorem run_concat (moves : List Move) (m : Move) : run (moves ++ [m]) = (run moves).step m :=
  List.foldl_append

theorem run_append (moves more : List Move) : run (moves ++ more) = more.foldl step (run moves) :=
  List.foldl_append

theorem looks_iff {w : Watch} {i : Nat} : w.looks i = true ↔ w.watchers[i]? = some .looker :=
  decide_eq_true_iff

theorem getElem?_notice (w : Watch) (i : Nat) :
    w.notice.watchers[i]? = w.watchers[i]?.map (Watcher.notice w.signal) :=
  List.getElem?_map

/-- Everybody who ever watched has gone, and nobody has a wait that is over. -/
def Deserted (w : Watch) : Prop :=
  ∀ x ∈ w.watchers, x = .gone

/-- What holds of the signal and of those who watch it after some moves. -/
structure Sound (moves : List Move) (w : Watch) : Prop where
  abandoned : w.signal.abandoned = true ↔ .abandon ∈ moves
  waits : ∀ ended, .waiter ended ∈ w.watchers → ended = w.signal.endsWait
  raised : w.signal.raised = true → RaisedInTime moves
  /-- A signal that was raised in time is up, unless nobody was there to hear it. -/
  heard : RaisedInTime moves → w.signal.raised = true ∨ w.Deserted

section
variable {w : Watch} {moves : List Move} {m : Move}

/-- After a notice every wait is over exactly when the signal says so. -/
theorem waits_notice (h : ∀ ended, .waiter ended ∈ w.watchers → ended = true → w.signal.endsWait = true) :
    ∀ ended, .waiter ended ∈ w.notice.watchers → ended = w.signal.endsWait := by
  intro ended hended
  obtain ⟨x, hx, hnotice⟩ := List.mem_map.1 hended
  cases x with
  | looker => cases hnotice
  | gone => cases hnotice
  | waiter before =>
    obtain rfl := Watcher.waiter.inj hnotice
    cases before with
    | false => exact Bool.false_or _
    | true => rw [h true hx rfl, Bool.or_true]

theorem Deserted.notice (h : w.Deserted) : w.notice.Deserted := by
  intro x hx
  obtain ⟨y, hy, rfl⟩ := List.mem_map.1 hx
  rw [h y hy]
  rfl

/-- Where everybody has gone nobody looks. -/
theorem Deserted.looks (h : w.Deserted) (i : Nat) : w.looks i = false := by
  rw [Bool.eq_false_iff, Ne, looks_iff]
  intro hi
  cases h _ (List.mem_of_getElem? hi)

/-- Where nobody listens and no wait has been ended, everybody has gone. -/
theorem Sound.deserted (h : w.Sound moves) (hdeaf : w.watchers.any Watcher.listens = false)
    (hpending : w.signal.endsWait = false) : w.Deserted := by
  intro x hx
  have hlistens : x.listens = false := by simpa using List.any_eq_false.1 hdeaf x hx
  cases x with
  | looker => cases hlistens
  | gone => rfl
  | waiter ended =>
    rw [h.waits ended hx, hpending] at hlistens
    cases hlistens

theorem raisedInTime_concat (hm : m ≠ .raise) : RaisedInTime (moves ++ [m]) ↔ RaisedInTime moves := by
  simp [RaisedInTime, precedes_concat, hm]

theorem mem_abandon_concat (hm : m ≠ .abandon) : .abandon ∈ moves ++ [m] ↔ .abandon ∈ moves := by
  simp [Ne.symm hm]

/-- Only the side that raises the signal changes it. -/
theorem signal_step (w : Watch) (hraise : m ≠ .raise) (habandon : m ≠ .abandon) : (w.step m).signal = w.signal := by
  cases m with
  | raise => exact absurd rfl hraise
  | abandon => exact absurd rfl habandon
  | look => rfl
  | _ =>
    rw [step]
    split <;> rfl

/-- A move of a watcher keeps what holds. -/
theorem Sound.still (h : w.Sound moves) (hraise : m ≠ .raise) (habandon : m ≠ .abandon)
    (hwaits : ∀ ended, .waiter ended ∈ (w.step m).watchers → ended = w.signal.endsWait)
    (hdeserted : w.Deserted → (w.step m).Deserted) : (w.step m).Sound (moves ++ [m]) := by
  have hsignal := w.signal_step hraise habandon
  refine ⟨?_, ?_, ?_, ?_⟩
  · rw [hsignal, mem_abandon_concat habandon, h.abandoned]
  · rw [hsignal]
    exact hwaits
  · rw [hsignal, raisedInTime_concat hraise]
    exact h.raised
  · rw [hsignal, raisedInTime_concat hraise]
    exact fun hin => (h.heard hin).imp_right hdeserted

/-- So does the raising of the signal, whether somebody hears it or not. -/
theorem Sound.raise (h : w.Sound moves) : (w.step .raise).Sound (moves ++ [.raise]) := by
  have hin : RaisedInTime (moves ++ [.raise]) ↔ RaisedInTime moves ∨ w.signal.abandoned = false := by
    rw [RaisedInTime, precedes_concat, ← Bool.not_eq_true, h.abandoned]
    simp [RaisedInTime]
  rw [step]
  split
  case isTrue =>
    refine ⟨?_, ?_, ?_, ?_⟩
    · rw [mem_abandon_concat (by decide), ← h.abandoned]
      simp [notice]
    · refine waits_notice fun ended hended htrue => endsWait_raise ?_
      rw [← h.waits ended hended, htrue]
    · rw [hin]
      exact fun hraised => ((raised_raise_iff _).1 hraised).imp_left h.raised
    · rw [hin]
      rintro (hraised | hopen)
      · exact (h.heard hraised).imp (fun hup => (raised_raise_iff _).2 (.inl hup)) Deserted.notice
      · exact .inl ((raised_raise_iff _).2 (.inr hopen))
  case isFalse hdeaf =>
    refine ⟨?_, h.waits, fun hraised => hin.2 (.inl (h.raised hraised)), ?_⟩
    · rw [mem_abandon_concat (by decide), h.abandoned]
    · rw [hin]
      rintro (hraised | hopen)
      · exact h.heard hraised
      · cases hup : w.signal.raised with
        | true => exact .inl rfl
        | false => exact .inr (h.deserted (by simpa using hdeaf) (by simp [endsWait, hup, hopen]))

/-- And the end of the side that could raise it. -/
theorem Sound.abandon (h : w.Sound moves) : (w.step .abandon).Sound (moves ++ [.abandon]) := by
  have hin : RaisedInTime (moves ++ [.abandon]) ↔ RaisedInTime moves := raisedInTime_concat (by decide)
  refine ⟨by simp [step, notice, StopSignal.abandon], ?_, ?_, ?_⟩
  · exact waits_notice fun _ _ _ => endsWait_abandon w.signal
  · rw [hin]
    exact h.raised
  · rw [hin]
    exact fun hraised => (h.heard hraised).imp id Deserted.notice

/-- Every move keeps what holds. -/
theorem sound_step (h : w.Sound moves) (m : Move) : (w.step m).Sound (moves ++ [m]) := by
  cases m with
  | raise => exact h.raise
  | abandon => exact h.abandon
  | copy i =>
    refine h.still (by simp) (by simp) ?_ ?_
    · rw [step]
      split
      · intro ended hended
        exact h.waits ended (by simpa using hended)
      · exact h.waits
    · intro hdeserted
      rw [step, if_neg (by simp [hdeserted.looks])]
      exact hdeserted
  | wait i =>
    refine h.still (by simp) (by simp) ?_ ?_
    · rw [step]
      split
      · refine waits_notice fun ended hended htrue => ?_
        rcases List.mem_or_eq_of_mem_set hended with hended | hnew
        · exact (h.waits ended hended).symm.trans htrue
        · rw [Watcher.waiter.inj hnew] at htrue
          cases htrue
      · exact h.waits
    · intro hdeserted
      rw [step, if_neg (by simp [hdeserted.looks])]
      exact hdeserted
  | leave i =>
    have hset : ∀ x, x ∈ w.watchers.set i .gone → x ∈ w.watchers ∨ x = .gone := fun _ => List.mem_or_eq_of_mem_set
    refine h.still (by simp) (by simp) ?_ ?_
    · rw [step]
      split
      · exact fun ended hended => (hset _ hended).elim (h.waits ended) nofun
      · exact h.waits
    · intro hdeserted
      rw [step]
      split
      · exact fun x hx => (hset x hx).elim (hdeserted x) id
      · exact hdeserted
  | look => exact h.still (by simp) (by simp) h.waits id

/-- What becomes of one watcher in one move. A fresh signal ends no wait, so that a watcher who notices one stays what it
was. -/
theorem watcher_step {i : Nat} {x : Watcher} (h : w.watchers[i]? = some x) (m : Move) :
    (∃ s, (w.step m).watchers[i]? = some (x.notice s)) ∨
      (m = .wait i ∧ x = .looker ∧ ∃ ended, (w.step m).watchers[i]? = some (.waiter ended)) ∨
      (m = .leave i ∧ x.listens = true ∧ (w.step m).watchers[i]? = some .gone) := by
  have hi := (List.getElem?_eq_some_iff.1 h).1
  have hsame : ∀ {w' : Watch}, w'.watchers[i]? = some x → ∃ s, w'.watchers[i]? = some (x.notice s) := by
    intro w' h'
    refine ⟨{}, h'.trans (congrArg some ?_)⟩
    cases x with
    | waiter ended => exact congrArg Watcher.waiter (Bool.or_false ended).symm
    | _ => rfl
  cases m with
  | raise =>
    refine .inl ?_
    rw [step]
    split
    · exact ⟨_, by rw [getElem?_notice, h]; rfl⟩
    · exact hsame h
  | abandon => exact .inl ⟨_, by rw [step, getElem?_notice, h]; rfl⟩
  | copy j =>
    refine .inl ?_
    rw [step]
    split
    · exact hsame (by rw [List.getElem?_append_left hi, h])
    · exact hsame h
  | wait j =>
    rw [step]
    split
    case isTrue hlooks =>
      by_cases hij : j = i
      · subst hij
        obtain rfl := Option.some.inj (h.symm.trans (looks_iff.1 hlooks))
        exact .inr (.inl ⟨rfl, rfl, _, by rw [getElem?_notice, List.getElem?_set_self hi]; rfl⟩)
      · exact .inl ⟨_, by rw [getElem?_notice, List.getElem?_set_ne hij, h]; rfl⟩
    case isFalse => exact .inl (hsame h)
  | leave j =>
    rw [step]
    split
    case isTrue hlistens =>
      by_cases hij : j = i
      · subst hij
        rw [h] at hlistens
        exact .inr (.inr ⟨rfl, hlistens, List.getElem?_set_self hi⟩)
      · exact .inl (hsame (by rw [List.getElem?_set_ne hij, h]))
    case isFalse => exact .inl (hsame h)
  | look => exact .inl (hsame h)

end

/-! ## Any moves -/

/-- After any moves everything holds. -/
theorem sound_run (moves : List Move) : (run moves).Sound moves := by
  induction moves using List.reverseRecOn with
  | nil =>
    refine ⟨by simp [run], ?_, nofun, fun h => absurd h not_precedes_nil⟩
    intro ended hended
    simp [run] at hended
  | append_singleton moves m ih =>
    rw [run_concat]
    exact sound_step ih m

section
variable {w : Watch} {i : Nat} {more : List Move}

/-- A looker goes on looking until it waits or leaves. -/
theorem looks_foldl (h : w.looks i = true) (hwait : .wait i ∉ more) (hleave : .leave i ∉ more) :
    (more.foldl step w).looks i = true := by
  induction more generalizing w with
  | nil => exact h
  | cons m more ih =>
    rw [List.mem_cons, not_or] at hwait hleave
    refine ih ?_ hwait.2 hleave.2
    rcases watcher_step (looks_iff.1 h) m with ⟨s, hs⟩ | ⟨rfl, -⟩ | ⟨rfl, -⟩
    · exact looks_iff.2 hs
    · exact absurd rfl hwait.1
    · exact absurd rfl hleave.1

/-- A wait that has begun goes on until it is over, or is given up. -/
theorem waits_foldl {ended : Bool} (h : w.watchers[i]? = some (.waiter ended)) (hleave : .leave i ∉ more) :
    ∃ ended', (more.foldl step w).watchers[i]? = some (.waiter ended') := by
  induction more generalizing w ended with
  | nil => exact ⟨ended, h⟩
  | cons m more ih =>
    rw [List.mem_cons, not_or] at hleave
    rcases watcher_step h m with ⟨s, hs⟩ | ⟨-, hlooker, -⟩ | ⟨rfl, -⟩
    · exact ih hs hleave.2
    · cases hlooker
    · exact absurd rfl hleave.1

/-- A wait that is over stays over. -/
theorem ended_foldl (h : w.watchers[i]? = some (.waiter true)) :
    (more.foldl step w).watchers[i]? = some (.waiter true) := by
  induction more generalizing w with
  | nil => exact h
  | cons m more ih =>
    refine ih ?_
    rcases watcher_step h m with ⟨s, hs⟩ | ⟨-, hlooker, -⟩ | ⟨-, hlistens, -⟩
    · exact hs
    · cases hlooker
    · cases hlistens

end

/-- What a looker sees is whether the signal was raised in time. -/
theorem view_iff {moves : List Move} {i : Nat} {b : Bool} (h : (run moves).view? i = some b) :
    b = true ↔ RaisedInTime moves := by
  unfold view? at h
  split at h
  case isTrue hlooks =>
    obtain rfl := Option.some.inj h
    have hsound := sound_run moves
    refine ⟨hsound.raised, fun hin => (hsound.heard hin).resolve_right fun hdeserted => ?_⟩
    rw [hdeserted.looks] at hlooks
    cases hlooks
  case isFalse => cases h

/-- A wait is over once the signal was raised in time or abandoned, and not before. -/
theorem ended_iff {moves : List Move} {ended : Bool} (h : .waiter ended ∈ (run moves).watchers) :
    ended = true ↔ RaisedInTime moves ∨ .abandon ∈ moves := by
  have hsound := sound_run moves
  rw [hsound.waits ended h, endsWait, Bool.or_eq_true, hsound.abandoned]
  refine or_congr_left ⟨hsound.raised, fun hin => (hsound.heard hin).resolve_right fun hdeserted => ?_⟩
  cases hdeserted _ h

/-- What the signal tells those who watch it, after some moves and whatever moves come later. -/
structure Told (moves : List Move) : Prop where
  /-- Whoever looks sees whether the signal was raised before it was abandoned. -/
  views : ∀ i b, (run moves).view? i = some b → (b = true ↔ RaisedInTime moves)
  /-- All who look see the same. -/
  alike : ∀ i j b b', (run moves).view? i = some b → (run moves).view? j = some b' → b = b'
  /-- A signal that somebody has seen stays up for everybody. -/
  stays : ∀ i j more b, (run moves).view? i = some true → (run (moves ++ more)).view? j = some b → b = true
  /-- A wait is over exactly when the signal was raised in time or has been abandoned. -/
  waits : ∀ (i : Nat) ended, (run moves).watchers[i]? = some (Watcher.waiter ended) →
    (ended = true ↔ RaisedInTime moves ∨ .abandon ∈ moves)
  /-- A wait that is over stays over. -/
  ended : ∀ (i : Nat) more, (run moves).watchers[i]? = some (Watcher.waiter true) →
    (run (moves ++ more)).watchers[i]? = some (Watcher.waiter true)
  /-- The copy of a looker is one more looker. -/
  copied : ∀ i, (run moves).looks i = true → (run (moves ++ [.copy i])).looks (run moves).watchers.length = true
  /-- A looker goes on looking until it waits or leaves. -/
  looking : ∀ i more, (run moves).looks i = true → .wait i ∉ more → .leave i ∉ more →
    (run (moves ++ more)).looks i = true
  /-- A looker that waits is a wait from then on, unless it is given up. -/
  waiting : ∀ (i : Nat) more, (run moves).looks i = true → .leave i ∉ more →
    ∃ ended, (run (moves ++ .wait i :: more)).watchers[i]? = some (Watcher.waiter ended)

theorem told_run (moves : List Move) : Told moves where
  views _ _ := view_iff
  alike _ _ _ _ h h' := Bool.eq_iff_iff.2 ((view_iff h).trans (view_iff h').symm)
  stays _ _ more _ h h' := (view_iff h').2 (((view_iff h).1 rfl).append more)
  waits _ _ h := ended_iff (List.mem_of_getElem? h)
  ended _ _ h := by
    rw [run_append]
    exact ended_foldl h
  copied i h := by
    rw [run_concat, step, if_pos h, looks_iff, List.getElem?_concat_length]
  looking _ _ h hwait hleave := by
    rw [run_append]
    exact looks_foldl h hwait hleave
  waiting i more h hleave := by
    have hi := (List.getElem?_eq_some_iff.1 (looks_iff.1 h)).1
    have hbegun : ((run moves).step (.wait i)).watchers[i]? = some (.waiter (run moves).signal.endsWait) := by
      rw [step, if_pos h, getElem?_notice, List.getElem?_set_self hi]
      rfl
    rw [run_append, List.foldl_cons]
    exact waits_foldl hbegun hleave

end Watch

/-! ## The parties -/

namespace Parties

/-- The parties are watchers: those who look are counted, the waits are listed. -/
structure Matches (p : Parties) (w : Watch) : Prop where
  signal : p.signal = w.signal
  lookers : p.lookers = w.watchers.count .looker
  waits : p.waits = w.watchers.filterMap Watcher.ended?
  first : w.looks 0 = true

section
variable (s : StopSignal) (watchers : List Watcher)

/-- A notice leaves the lookers as they are. -/
theorem count_notice : (watchers.map (Watcher.notice s)).count .looker = watchers.count .looker := by
  induction watchers with
  | nil => rfl
  | cons x watchers ih => cases x <;> simp [Watcher.notice, ih]

/-- A notice reaches every wait. -/
theorem filterMap_notice :
    (watchers.map (Watcher.notice s)).filterMap Watcher.ended? =
      (watchers.filterMap Watcher.ended?).map (· || s.endsWait) := by
  induction watchers with
  | nil => rfl
  | cons x watchers ih => cases x <;> simp [Watcher.notice, Watcher.ended?, List.filterMap_cons, ih]

end

section
variable {p : Parties} {w : Watch}

/-- The parties and the watchers notice the same. -/
theorem Matches.notice (h : p.Matches w) : p.notice.Matches w.notice where
  signal := h.signal
  lookers := h.lookers.trans (count_notice w.signal w.watchers).symm
  waits := by
    simp only [Parties.notice, Watch.notice, h.waits, h.signal, filterMap_notice]
  first := by
    rw [Watch.looks_iff, Watch.getElem?_notice, Watch.looks_iff.1 h.first]
    rfl

/-- A change of the signal is one for both. -/
theorem Matches.change (h : p.Matches w) (change : StopSignal → StopSignal) :
    Matches (Parties.notice { p with signal := change p.signal }) (Watch.notice { w with signal := change w.signal }) :=
  Matches.notice ⟨congrArg change h.signal, h.lookers, h.waits, h.first⟩

/-- A copy is one more looker. -/
theorem Matches.copy (h : p.Matches w) : (p.step .copy).Matches (w.step (.copy 0)) := by
  have hlength : 0 < w.watchers.length := (List.getElem?_eq_some_iff.1 (Watch.looks_iff.1 h.first)).1
  rw [Watch.step, if_pos h.first]
  refine ⟨h.signal, ?_, ?_, ?_⟩
  · simp [step, h.lookers]
  · simp [step, h.waits, Watcher.ended?]
  · rw [Watch.looks_iff, List.getElem?_append_left hlength, Watch.looks_iff.1 h.first]

/-- A party that waits is a copy that does. -/
theorem Matches.wait (h : p.Matches w) :
    (p.step .wait).Matches ((w.step (.copy 0)).step (.wait w.watchers.length)) := by
  have hcopied : ({ w with watchers := w.watchers ++ [.looker] } : Watch).looks w.watchers.length = true :=
    Watch.looks_iff.2 List.getElem?_concat_length
  have hset : (w.watchers ++ [Watcher.looker]).set w.watchers.length (.waiter false) = w.watchers ++ [.waiter false] := by
    simp
  have hbegun : Matches { p with waits := p.waits ++ [false] } { w with watchers := w.watchers ++ [.waiter false] } := by
    have hlength : 0 < w.watchers.length := (List.getElem?_eq_some_iff.1 (Watch.looks_iff.1 h.first)).1
    refine ⟨h.signal, ?_, ?_, ?_⟩
    · simp [h.lookers]
    · simp [h.waits, Watcher.ended?]
    · rw [Watch.looks_iff, List.getElem?_append_left hlength, Watch.looks_iff.1 h.first]
  rw [Watch.step, if_pos h.first, Watch.step, if_pos hcopied]
  simp only [hset]
  exact hbegun.notice

end

/-- The parties are watchers of whom nobody leaves. -/
theorem matched (acts : List Act) :
    ∃ moves, Matches (acts.foldl step {}) (Watch.run moves) ∧
      (RaisedInTime moves ↔ Precedes .raise .abandon acts) ∧ (.abandon ∈ moves ↔ .abandon ∈ acts) := by
  induction acts using List.reverseRecOn with
  | nil => exact ⟨[], ⟨rfl, rfl, rfl, rfl⟩, by simp [RaisedInTime, not_precedes_nil], by simp⟩
  | append_singleton acts act ih =>
    obtain ⟨moves, hmatches, hin, habandon⟩ := ih
    simp only [List.foldl_append, List.foldl_cons, List.foldl_nil]
    have hconcat : ∀ moves m, Watch.run (moves ++ [m]) = (Watch.run moves).step m := Watch.run_concat
    cases act with
    | raise =>
      have hlistens : (Watch.run moves).watchers.any Watcher.listens = true :=
        List.any_eq_true.2 ⟨_, List.mem_of_getElem? (Watch.looks_iff.1 hmatches.first), rfl⟩
      refine ⟨moves ++ [.raise], ?_, ?_, ?_⟩
      · rw [hconcat, Watch.step, if_pos hlistens]
        exact hmatches.change StopSignal.raise
      · rw [RaisedInTime, precedes_concat, precedes_concat, habandon]
        simp [← hin, RaisedInTime]
      · simp [habandon]
    | abandon =>
      refine ⟨moves ++ [.abandon], ?_, ?_, by simp⟩
      · rw [hconcat]
        exact hmatches.change StopSignal.abandon
      · rw [RaisedInTime, precedes_concat, precedes_concat, ← hin]
        simp [RaisedInTime]
    | copy =>
      refine ⟨moves ++ [.copy 0], ?_, ?_, by simp [habandon]⟩
      · rw [hconcat]
        exact hmatches.copy
      · rw [Watch.raisedInTime_concat (by simp), hin, precedes_concat]
        simp
    | wait =>
      refine ⟨moves ++ [.copy 0] ++ [.wait (Watch.run moves).watchers.length], ?_, ?_, by simp [habandon]⟩
      · rw [hconcat, hconcat]
        exact hmatches.wait
      · rw [Watch.raisedInTime_concat (by simp), Watch.raisedInTime_concat (by simp), hin, precedes_concat]
        simp
    | look =>
      refine ⟨moves, hmatches, ?_, by simp [habandon]⟩
      rw [hin, precedes_concat]
      simp

/-- Each copy is one more looker, and each wait is listed. -/
theorem counts (acts : List Act) :
    (acts.foldl step {}).lookers = acts.count .copy + 1 ∧ (acts.foldl step {}).waits.length = acts.count .wait := by
  induction acts using List.reverseRecOn with
  | nil => exact ⟨rfl, rfl⟩
  | append_singleton acts act ih =>
    obtain ⟨hlookers, hwaits⟩ := ih
    cases act <;> simp [step, Parties.notice, hlookers, hwaits]

end Parties

/-! ## The signal -/

/-- Whatever the sender and the watchers do, in whatever order, the signal tells everybody the truth; and so it does
when lookers and waits are only counted. -/
theorem signal_told :
    (∀ moves, Watch.Told moves) ∧ ∀ acts : List Act, ∃ up ended,
      (acts.foldl Parties.step {}).views = List.replicate (acts.count .copy + 1) up ∧
      (acts.foldl Parties.step {}).waits = List.replicate (acts.count .wait) ended ∧
      (up = true ↔ Precedes .raise .abandon acts) ∧
      (ended = true ↔ Precedes .raise .abandon acts ∨ .abandon ∈ acts) := by
  refine ⟨Watch.told_run, fun acts => ?_⟩
  obtain ⟨moves, hmatches, hin, habandon⟩ := Parties.matched acts
  obtain ⟨hlookers, hwaits⟩ := Parties.counts acts
  have hsound := Watch.sound_run moves
  have hup : (Watch.run moves).signal.raised = true ↔ Precedes .raise .abandon acts := by
    rw [← hin]
    exact Watch.view_iff (i := 0) (if_pos hmatches.first)
  refine ⟨(Watch.run moves).signal.raised, (Watch.run moves).signal.endsWait, ?_, ?_, hup, ?_⟩
  · rw [Parties.views, hlookers, hmatches.signal]
  · refine List.eq_replicate_iff.2 ⟨hwaits, fun ended hended => ?_⟩
    rw [hmatches.waits] at hended
    obtain ⟨x, hx, hxended⟩ := List.mem_filterMap.1 hended
    cases x with
    | waiter ended' => exact hsound.waits ended (Option.some.inj hxended ▸ hx)
    | _ => cases hxended
  · rw [endsWait, Bool.or_eq_true, hup, hsound.abandoned, habandon]

/-- Of two waits one begins before the signal is raised and one after; a looker that was copied last sees it as well. -/
example :
    (Watch.run [.copy 0, .wait 1, .raise, .copy 0, .wait 0, .abandon]).watchers =
      [.waiter true, .waiter true, .looker] ∧
    (Watch.run [.copy 0, .wait 1, .raise, .copy 0, .wait 0, .abandon]).view? 2 = some true := by
  decide

end QueryGateway.StopSignal
