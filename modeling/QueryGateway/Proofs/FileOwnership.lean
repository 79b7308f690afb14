import QueryGateway.Input.Slots
import QueryGateway.Proofs.InputDirectory
import Mathlib.Data.List.Induction
import Mathlib.Logic.Function.Basic

/-!
# Which files are there

A file is there as long as no lease that leads to it was released, or dropped while open, since it was put there
(`Slots.Since`, `Slots.Lawful`). This holds for any number of leases in any slots, also for several with one path, and
whatever the operating system refuses; each deed keeps it (`Lawful.acquired`, `Lawful.refused`, `Lawful.released`,
`Lawful.dropped`). Which deeds an act is recorded with, and what its slot holds then, is told from the files and from what
the slot held (`Slots.does_step`), and a history is that of the acts of its run (`Slots.records_run`).
-/

namespace QueryGateway

open QueryGateway.Tree (Alters AddsDirectories Keeps)

/-! ## Taking a file away -/

/-- Closing a lease takes away what stands where it leads, unless that is a directory, or leaves everything as it is. -/
theorem Lease.removeFile_cases (lease : Lease) (cwd : Place) (t : Tree) :
    (∃ place node, t.locate cwd false lease.path = .ok place ∧ t.at? place = some node ∧ node ≠ .directory ∧
      Alters place none t (lease.removeFile cwd t)) ∨
    (lease.removeFile cwd t = t ∧
      ∀ place, t.locate cwd false lease.path = .ok place → ∀ node, t.at? place = some node → node = .directory) := by
  unfold removeFile Tree.remove
  cases hl : t.locate cwd false lease.path with
  | error fault => exact .inr ⟨rfl, nofun⟩
  | ok place =>
    cases hat : t.at? place with
    | none =>
      refine .inr ⟨by simp only [hat], fun place' hplace node hnode => ?_⟩
      rw [← Except.ok.inj hplace, hat] at hnode
      cases hnode
    | some node =>
      by_cases hdirectory : node = .directory
      · subst hdirectory
        refine .inr ⟨by simp only [hat], fun place' hplace node hnode => ?_⟩
        rw [← Except.ok.inj hplace, hat] at hnode
        exact (Option.some.inj hnode).symm
      · refine .inl ⟨place, node, rfl, hat, hdirectory, ?_⟩
        cases node with
        | directory => exact absurd rfl hdirectory
        | _ =>
          simp only [hat]
          exact Alters.take (by simp [hat])

/-- Closing a lease whose file is gone changes nothing. -/
theorem Lease.removeFile_gone {lease : Lease} {cwd : Place} {t : Tree}
    (h : ∀ place, t.locate cwd false lease.path = .ok place → t.at? place = none) : lease.removeFile cwd t = t := by
  rcases lease.removeFile_cases cwd t with ⟨place, node, hlocated, hat, -⟩ | ⟨hsame, -⟩
  · rw [h place hlocated] at hat
    cases hat
  · exact hsame

/-- Closing a lease leaves what stands anywhere as it is, or takes it away. -/
theorem Lease.removeFile_spares (lease : Lease) (cwd : Place) {t : Tree} {place : Place} {node : Node}
    (h : t.at? place = some node) :
    (lease.removeFile cwd t).at? place = some node ∨ (lease.removeFile cwd t).at? place = none := by
  rcases lease.removeFile_cases cwd t with ⟨place', _, _, _, _, halters⟩ | ⟨hsame, -⟩
  · rw [halters place]
    split
    · exact .inr rfl
    · exact .inl h
  · rw [hsame]
    exact .inl h

/-- So does dropping it. -/
theorem Lease.drop_spares (lease : Lease) (cwd : Place) {t : Tree} {place : Place} {node : Node}
    (h : t.at? place = some node) :
    (lease.drop cwd t).at? place = some node ∨ (lease.drop cwd t).at? place = none := by
  unfold drop
  split
  · exact .inl h
  · exact lease.removeFile_spares cwd h

namespace InputDirectory

/-- An acquisition leaves everything that stands somewhere as it is. -/
theorem Acquires.stays {d : InputDirectory} {cwd : Place} {id document : String} {t : Tree}
    {outcome : Except StoreFault Lease × Tree} (h : Acquires d cwd id document t outcome) {place : Place} {node : Node}
    (hat : t.at? place = some node) : outcome.2.at? place = some node := by
  cases h with
  | failed _ _ hadds => exact (hadds place).stays hat
  | provided t₁ t' place' _ hadds _ hvacant halters =>
    have hthere := (hadds place).stays hat
    rw [halters.other, hthere]
    rintro rfl
    rw [hvacant] at hthere
    cases hthere

/-- Only an unsafe name is refused for its own sake. -/
theorem exists_io_of_acquire {d : InputDirectory} {cwd : Place} {trouble : Trouble} {id document : String} {t t' : Tree}
    {fault : StoreFault} (hsafe : isSafeId id = true) (h : d.acquire cwd trouble id document t = (.error fault, t')) :
    ∃ cause, fault = .io cause := by
  have hsettles := d.acquire_settles cwd trouble document t hsafe
  rw [h] at hsettles
  cases hsettles with
  | failed cause => exact ⟨cause, rfl⟩

/-- No input is provided where something stands already. -/
theorem acquire_occupied {d : InputDirectory} {cwd place : Place} {id : String} {t : Tree} {node : Node}
    (hsafe : isSafeId id = true) (hlocated : t.locate cwd false (d.pathFor id) = .ok place)
    (hat : t.at? place = some node) (trouble : Trouble) (document : String) :
    ∃ cause t', d.acquire cwd trouble id document t = (.error (.io cause), t') := by
  have hcases := d.acquire_cases cwd trouble id document t
  generalize houtcome : d.acquire cwd trouble id document t = outcome at hcases
  cases hcases with
  | failed fault t' =>
    obtain ⟨cause, rfl⟩ := exists_io_of_acquire hsafe houtcome
    exact ⟨cause, t', rfl⟩
  | provided t₁ t' place' _ hadds hlocated' hvacant =>
    obtain rfl := Except.ok.inj ((hadds.keeps.locate hlocated).symm.trans hlocated')
    rw [(hadds place).stays hat] at hvacant
    cases hvacant

end InputDirectory

namespace Slots

/-! ## Moments -/

namespace Moment

/-- At this moment a file was put at a place. -/
def Makes (cwd place : Place) (node : Node) (m : Moment) : Prop :=
  ∃ document lease, m.deed = .acquired document lease ∧ m.after.locate cwd false lease.path = .ok place ∧
    node = .file (Text.encode document) Tree.fileMode

/-- At this moment a lease that leads to a place was released, or dropped while it was open. -/
def Takes (cwd place : Place) (m : Moment) : Prop :=
  ∃ lease, (m.deed = .released lease ∨ m.deed = .dropped lease ∧ lease.closed = false) ∧
    m.before.locate cwd false lease.path = .ok place

end Moment

/-- Something stood at a place at first, or was put there, and since then no lease that leads there was released, or
dropped while it was open. -/
def Since (cwd : Place) (initial : Tree) (history : List Moment) (place : Place) (node : Node) : Prop :=
  (initial.at? place = some node ∧ ∀ m ∈ history, ¬ m.Takes cwd place) ∨
    ∃ earlier m later, history = earlier ++ m :: later ∧ m.Makes cwd place node ∧ ∀ m ∈ later, ¬ m.Takes cwd place

/-- With one more moment, something stands that was put there now, or that stood already and was not taken now. -/
theorem since_concat {cwd : Place} {initial : Tree} {history : List Moment} {m : Moment} {place : Place} {node : Node} :
    Since cwd initial (history ++ [m]) place node ↔
      m.Makes cwd place node ∨ (Since cwd initial history place node ∧ ¬ m.Takes cwd place) := by
  constructor
  · rintro (⟨hfirst, hnever⟩ | ⟨earlier, m', later, heq, hmakes, hnever⟩)
    · exact .inr ⟨.inl ⟨hfirst, fun m' hm' => hnever m' (by simp [hm'])⟩, hnever m (by simp)⟩
    · rcases List.eq_nil_or_concat later with rfl | ⟨later, m'', rfl⟩
      · obtain rfl := (List.cons.inj (List.append_inj' heq rfl).2).1
        exact .inl hmakes
      · rw [List.concat_eq_append, ← List.cons_append, ← List.append_assoc] at heq
        obtain ⟨rfl, hlast⟩ := List.append_inj' heq rfl
        obtain rfl := (List.cons.inj hlast).1
        exact .inr ⟨.inr ⟨earlier, m', later, rfl, hmakes, fun x hx => hnever x (by simp [hx])⟩, hnever m (by simp)⟩
  · rintro (hmakes | ⟨⟨hfirst, hnever⟩ | ⟨earlier, m', later, rfl, hmakes, hnever⟩, hnot⟩)
    · exact .inr ⟨history, m, [], rfl, hmakes, nofun⟩
    · refine .inl ⟨hfirst, fun x hx => ?_⟩
      rcases List.mem_append.1 hx with hx | hx
      · exact hnever x hx
      · rwa [List.mem_singleton.1 hx]
    · refine .inr ⟨earlier, m', later ++ [m], by simp, hmakes, fun x hx => ?_⟩
      rcases List.mem_append.1 hx with hx | hx
      · exact hnever x hx
      · rwa [List.mem_singleton.1 hx]

/-! ## The law -/

/-- What is known of the files at any time: directories stay, and anything else is there exactly when it was there at
first or was put there, and was not taken away since. -/
structure Lawful (cwd : Place) (initial : Tree) (history : List Moment) (now : Tree) : Prop where
  there : ∀ place node, node ≠ .directory → (now.at? place = some node ↔ Since cwd initial history place node)
  directories : ∀ place, initial.at? place = some .directory → now.at? place = some .directory

section
variable {d : InputDirectory} {cwd : Place} {initial t t' : Tree} {history : List Moment} {deed : Deed}

/-- The law goes on when what stands at a place is what was put there by the last deed, or stood there and was not
taken by it. -/
theorem Lawful.concat (h : Lawful cwd initial history t)
    (hthere : ∀ place node, node ≠ .directory → (t'.at? place = some node ↔
      Moment.Makes cwd place node ⟨deed, t, t'⟩ ∨ (t.at? place = some node ∧ ¬ Moment.Takes cwd place ⟨deed, t, t'⟩)))
    (hdirectories : ∀ place, t.at? place = some .directory → t'.at? place = some .directory) :
    Lawful cwd initial (history ++ [⟨deed, t, t'⟩]) t' := by
  refine ⟨fun place node hnode => ?_, fun place hplace => hdirectories place (h.directories place hplace)⟩
  rw [hthere place node hnode, since_concat, h.there place node hnode]

/-- A deed that puts nothing anywhere and takes nothing away, but for directories that are made. -/
theorem Lawful.concat_quiet (h : Lawful cwd initial history t) (hadds : AddsDirectories t t')
    (hmakes : ∀ place node, ¬ Moment.Makes cwd place node ⟨deed, t, t'⟩)
    (htakes : ∀ place, ¬ Moment.Takes cwd place ⟨deed, t, t'⟩) :
    Lawful cwd initial (history ++ [⟨deed, t, t'⟩]) t' := by
  refine h.concat (fun place node hnode => ?_) fun place => (hadds place).stays
  rw [or_iff_right (hmakes place node), and_iff_left (htakes place)]
  exact ⟨(hadds place).was hnode, (hadds place).stays⟩

/-- A lease that takes away what stands where it leads. -/
theorem Lawful.concat_removal (h : Lawful cwd initial history t) (lease : Lease)
    (hdeed : deed = .released lease ∨ deed = .dropped lease ∧ lease.closed = false) :
    Lawful cwd initial (history ++ [⟨deed, t, lease.removeFile cwd t⟩]) (lease.removeFile cwd t) := by
  have hmakes : ∀ place node, ¬ Moment.Makes cwd place node ⟨deed, t, lease.removeFile cwd t⟩ := by
    rintro place node ⟨document, lease', rfl, -⟩
    rcases hdeed with hdeed | ⟨hdeed, -⟩ <;> cases hdeed
  have htakes : ∀ place, Moment.Takes cwd place ⟨deed, t, lease.removeFile cwd t⟩ ↔
      t.locate cwd false lease.path = .ok place := by
    intro place
    constructor
    · rintro ⟨lease', hdeed', hplace⟩
      rcases hdeed with rfl | ⟨rfl, -⟩ <;> rcases hdeed' with heq | ⟨heq, -⟩ <;> cases heq <;> exact hplace
    · exact fun hplace => ⟨lease, hdeed, hplace⟩
  rcases lease.removeFile_cases cwd t with ⟨place, node, hlocated, hat, hnode, halters⟩ | ⟨hsame, hnothing⟩
  · refine h.concat (fun place' node' _ => ?_) fun place' hdirectory => ?_
    · rw [or_iff_right (hmakes place' node'), htakes, halters place', hlocated]
      by_cases hplace : place' = place
      · subst hplace
        simp
      · rw [if_neg hplace]
        exact ⟨fun h => ⟨h, fun heq => hplace (Except.ok.inj heq).symm⟩, And.left⟩
    · rw [halters.other, hdirectory]
      rintro rfl
      exact hnode (Option.some.inj (hat.symm.trans hdirectory))
  · rw [hsame] at hmakes htakes ⊢
    refine h.concat (fun place node hnode => ?_) fun _ => id
    rw [or_iff_right (hmakes place node), htakes]
    exact ⟨fun hat => ⟨hat, fun hplace => hnode (hnothing place hplace node hat)⟩, And.left⟩

/-- A lease that is acquired puts its file where nothing stood. -/
theorem Lawful.acquired (h : Lawful cwd initial history t) (lease : Lease) {t₁ : Tree} {place : Place}
    {document : String} (hadds : AddsDirectories t t₁) (hlocated : t₁.locate cwd false lease.path = .ok place)
    (hvacant : t₁.at? place = none) (halters : Alters place (some (.file (Text.encode document) Tree.fileMode)) t₁ t') :
    Lawful cwd initial (history ++ [⟨.acquired document lease, t, t'⟩]) t' := by
  have hlocated' : t'.locate cwd false lease.path = .ok place :=
    (Keeps.of_alters halters (by simp [hvacant]) (by simp [hvacant]) nofun).locate hlocated
  have hmakes : ∀ place' node, Moment.Makes cwd place' node ⟨.acquired document lease, t, t'⟩ ↔
      place' = place ∧ node = .file (Text.encode document) Tree.fileMode := by
    intro place' node
    constructor
    · rintro ⟨document', lease', hdeed, hplace, rfl⟩
      cases hdeed
      exact ⟨Except.ok.inj (hplace.symm.trans hlocated'), rfl⟩
    · rintro ⟨rfl, rfl⟩
      exact ⟨document, lease, rfl, hlocated', rfl⟩
  have htakes : ∀ place', ¬ Moment.Takes cwd place' ⟨.acquired document lease, t, t'⟩ := by
    rintro place' ⟨_, hdeed | ⟨hdeed, -⟩, -⟩ <;> cases hdeed
  refine h.concat (fun place' node hnode => ?_) fun place' hdirectory => ?_
  · rw [hmakes, and_iff_left (htakes place'), halters place']
    by_cases hplace : place' = place
    · subst hplace
      simp [(hadds place').vacant hvacant, eq_comm]
    · simp only [hplace, if_false, false_and, false_or]
      exact ⟨(hadds place').was hnode, (hadds place').stays⟩
  · have hthere := (hadds place').stays hdirectory
    rw [halters.other, hthere]
    rintro rfl
    rw [hvacant] at hthere
    cases hthere

/-! ### The four deeds -/

/-- A refusal leaves at most directories behind. -/
theorem Lawful.refused (h : Lawful cwd initial history t) (id document : String) (fault : StoreFault)
    (hadds : AddsDirectories t t') : Lawful cwd initial (history ++ [⟨.refused id document fault, t, t'⟩]) t' := by
  refine h.concat_quiet hadds ?_ ?_
  · rintro place node ⟨_, _, hdeed, -⟩
    cases hdeed
  · rintro place ⟨_, hdeed | ⟨hdeed, -⟩, -⟩ <;> cases hdeed

/-- A lease that is released takes its file away, closed or not. -/
theorem Lawful.released (h : Lawful cwd initial history t) (lease : Lease) :
    Lawful cwd initial (history ++ [⟨.released lease, t, lease.removeFile cwd t⟩]) (lease.removeFile cwd t) :=
  h.concat_removal lease (.inl rfl)

/-- A lease that is dropped takes its file away unless it is closed. -/
theorem Lawful.dropped (h : Lawful cwd initial history t) (lease : Lease) :
    Lawful cwd initial (history ++ [⟨.dropped lease, t, lease.drop cwd t⟩]) (lease.drop cwd t) := by
  unfold Lease.drop
  split
  case isTrue hclosed =>
    refine h.concat_quiet (.refl t) ?_ ?_
    · rintro place node ⟨_, _, hdeed, -⟩
      cases hdeed
    · rintro place ⟨lease', hdeed | ⟨hdeed, hopen⟩, -⟩
      · cases hdeed
      · cases hdeed
        rw [hclosed] at hopen
        cases hopen
  case isFalse hopen => exact h.concat_removal lease (.inr ⟨rfl, by simpa using hopen⟩)

end

/-! ## What each act records -/

/-- What was done so far, in the order in which it was done. -/
def deeds (s : Slots) : List Deed :=
  s.history.map Moment.deed

/-- The slot that an act is on. -/
def Act.slot : Act → Nat
  | acquire slot _ _ _ => slot
  | release slot => slot
  | drop slot => slot
  | close slot => slot
  | adopt slot _ _ => slot

/-- What an act is recorded with, told from the files and from what its slot holds, and what the slot holds then. -/
inductive Does (d : InputDirectory) (cwd : Place) (t : Tree) (held? : Option Lease) :
    Act → List Deed → Option Lease → Prop where
  /-- What is acquired is recorded, and behind it that the lease was dropped which the slot held. -/
  | acquired (slot : Nat) (id document : String) (trouble : Trouble) (lease : Lease) (t' : Tree) :
      d.acquire cwd trouble id document t = (.ok lease, t') →
      Does d cwd t held? (.acquire slot id document trouble) (.acquired document lease :: held?.toList.map .dropped)
        (some lease)
  /-- What is refused is recorded as that. -/
  | refused (slot : Nat) (id document : String) (trouble : Trouble) (fault : StoreFault) (t' : Tree) :
      d.acquire cwd trouble id document t = (.error fault, t') →
      Does d cwd t held? (.acquire slot id document trouble) [.refused id document fault] held?
  /-- A release is recorded of the lease that the slot held, if it held one. -/
  | released (slot : Nat) : Does d cwd t held? (.release slot) (held?.toList.map .released) none
  /-- So is a drop. -/
  | dropped (slot : Nat) : Does d cwd t held? (.drop slot) (held?.toList.map .dropped) none
  /-- To close a lease is no deed. It is closed from then on. -/
  | closed (slot : Nat) : Does d cwd t held? (.close slot) [] (held?.map fun lease => { lease with closed := true })
  /-- A lease that is made up is open, and takes the place of the one that is dropped for it. -/
  | adopted (slot : Nat) (id : String) (path : Path) : Does d cwd t held? (.adopt slot id path)
      (held?.toList.map .dropped) (some { id := id, path := path, closed := false })

/-- What the acts of a run are recorded with, one act after the other. -/
inductive Records (d : InputDirectory) (cwd : Place) (initial : Tree) : List Act → List Deed → Prop where
  | nil : Records d cwd initial [] []
  | concat {acts : List Act} {act : Act} {deeds more : List Deed} {lease? : Option Lease} :
      Records d cwd initial acts deeds →
      Does d cwd (run d cwd initial acts).tree ((run d cwd initial acts).leases act.slot) act more lease? →
      Records d cwd initial (acts ++ [act]) (deeds ++ more)

/-- Filling and emptying a slot is no deed. -/
@[simp] theorem tree_put (s : Slots) (slot : Nat) (lease? : Option Lease) : (s.put slot lease?).tree = s.tree := rfl

@[simp] theorem history_put (s : Slots) (slot : Nat) (lease? : Option Lease) :
    (s.put slot lease?).history = s.history := rfl

@[simp] theorem deeds_put (s : Slots) (slot : Nat) (lease? : Option Lease) : (s.put slot lease?).deeds = s.deeds := rfl

@[simp] theorem leases_put (s : Slots) (slot : Nat) (lease? : Option Lease) :
    (s.put slot lease?).leases = Function.update s.leases slot lease? := by
  funext other
  rw [Function.update_apply]
  rfl

/-- A deed is the last moment, and leaves the files it leaves. -/
@[simp] theorem tree_record (s : Slots) (deed : Deed) (after : Tree) : (s.record deed after).tree = after := rfl

@[simp] theorem history_record (s : Slots) (deed : Deed) (after : Tree) :
    (s.record deed after).history = s.history ++ [⟨deed, s.tree, after⟩] := rfl

@[simp] theorem deeds_record (s : Slots) (deed : Deed) (after : Tree) : (s.record deed after).deeds = s.deeds ++ [deed] := by
  rw [deeds, history_record, List.map_append, List.map_singleton, deeds]

@[simp] theorem leases_record (s : Slots) (deed : Deed) (after : Tree) : (s.record deed after).leases = s.leases := rfl

/-- The lease that a slot holds is dropped with one deed, and still in its slot then. -/
@[simp] theorem deeds_dropHeld (cwd : Place) (s : Slots) (slot : Nat) :
    (s.dropHeld cwd slot).deeds = s.deeds ++ (s.leases slot).toList.map .dropped := by
  unfold dropHeld
  cases s.leases slot with
  | none => simp
  | some lease => simp

@[simp] theorem leases_dropHeld (cwd : Place) (s : Slots) (slot : Nat) : (s.dropHeld cwd slot).leases = s.leases := by
  unfold dropHeld
  split <;> rfl

/-- Every act is recorded with what it does, and leaves the slots alone that it is not on. -/
theorem does_step (d : InputDirectory) (cwd : Place) (s : Slots) (act : Act) :
    ∃ more lease?, Does d cwd s.tree (s.leases act.slot) act more lease? ∧
      (s.step d cwd act).deeds = s.deeds ++ more ∧
      (s.step d cwd act).leases = Function.update s.leases act.slot lease? := by
  cases act with
  | acquire slot id document trouble =>
    rcases hacquire : d.acquire cwd trouble id document s.tree with ⟨fault | lease, t⟩
    · refine ⟨_, _, .refused slot id document trouble fault t hacquire, ?_, ?_⟩
      · simp [step, hacquire]
      · rw [Function.update_eq_self]
        simp [step, hacquire]
    · refine ⟨_, _, .acquired slot id document trouble lease t hacquire, ?_, ?_⟩
      · simp [step, hacquire, Act.slot]
      · simp [step, hacquire, Act.slot]
  | release slot =>
    refine ⟨_, _, .released slot, ?_⟩
    cases hheld : s.leases slot with
    | none =>
      have hsame : Function.update s.leases slot none = s.leases := by rw [← hheld, Function.update_eq_self]
      simp [step, hheld, Act.slot, hsame]
    | some lease => simp [step, hheld, Act.slot]
  | drop slot => exact ⟨_, _, .dropped slot, by simp [step, Act.slot], by simp [step, Act.slot]⟩
  | close slot =>
    have hclose : Lease.close = fun lease => { lease with closed := true } := rfl
    exact ⟨_, _, .closed slot, by simp [step], by simp [step, Act.slot, hclose]⟩
  | adopt slot id path => exact ⟨_, _, .adopted slot id path, by simp [step, Act.slot], by simp [step, Act.slot]⟩

theorem run_concat (d : InputDirectory) (cwd : Place) (initial : Tree) (acts : List Act) (act : Act) :
    run d cwd initial (acts ++ [act]) = (run d cwd initial acts).step d cwd act :=
  List.foldl_append

/-- The history of a run holds what its acts did, in their order, and nothing else. -/
theorem records_run (d : InputDirectory) (cwd : Place) (initial : Tree) (acts : List Act) :
    Records d cwd initial acts (run d cwd initial acts).deeds := by
  induction acts using List.reverseRecOn with
  | nil => exact .nil
  | append_singleton acts act ih =>
    obtain ⟨more, lease?, hdoes, hdeeds, -⟩ := (run d cwd initial acts).does_step d cwd act
    rw [run_concat, hdeeds]
    exact ih.concat hdoes

/-! ## Any acts -/

section
variable {d : InputDirectory} {cwd : Place} {initial : Tree} {s : Slots}

/-- Dropping what a slot holds is a deed, or nothing. -/
theorem lawful_dropHeld (h : Lawful cwd initial s.history s.tree) (slot : Nat) :
    Lawful cwd initial (s.dropHeld cwd slot).history (s.dropHeld cwd slot).tree := by
  unfold dropHeld
  split
  · exact h.dropped _
  · exact h

/-- Every act keeps the law. -/
theorem lawful_step (h : Lawful cwd initial s.history s.tree) (act : Act) :
    Lawful cwd initial (s.step d cwd act).history (s.step d cwd act).tree := by
  cases act with
  | acquire slot id document trouble =>
    have hcases := d.acquire_cases cwd trouble id document s.tree
    simp only [step]
    generalize d.acquire cwd trouble id document s.tree = outcome at hcases
    cases hcases with
    | failed fault t hadds =>
      simp only [history_record, tree_record]
      exact h.refused id document fault hadds
    | provided t₁ t place _ hadds hlocated hvacant halters =>
      let lease : Lease := { id := id, path := d.pathFor id }
      let s' := s.record (.acquired document lease) t
      have hacquired : Lawful cwd initial s'.history s'.tree := h.acquired lease hadds hlocated hvacant halters
      exact lawful_dropHeld hacquired slot
  | release slot =>
    simp only [step]
    split
    case h_1 lease _ =>
      simp only [history_put, tree_put, history_record, tree_record, InputDirectory.release]
      exact h.released lease
    case h_2 => exact h
  | drop slot =>
    simp only [step, history_put, tree_put]
    exact lawful_dropHeld h slot
  | close slot => exact h
  | adopt slot id path =>
    simp only [step, history_put, tree_put]
    exact lawful_dropHeld h slot

/-- The law holds after any acts. -/
theorem lawful_run (d : InputDirectory) (cwd : Place) (initial : Tree) (acts : List Act) :
    Lawful cwd initial (run d cwd initial acts).history (run d cwd initial acts).tree := by
  induction acts using List.reverseRecOn with
  | nil => exact ⟨fun place node _ => by simp [run, Since], fun _ => id⟩
  | append_singleton acts act ih =>
    rw [run_concat]
    exact lawful_step ih act

/-- An act leaves what stands anywhere as it is, or takes it away. -/
theorem step_spares (act : Act) {place : Place} {node : Node} (h : s.tree.at? place = some node) :
    (s.step d cwd act).tree.at? place = some node ∨ (s.step d cwd act).tree.at? place = none := by
  have hdropped : ∀ (s : Slots) slot, s.tree.at? place = some node →
      (s.dropHeld cwd slot).tree.at? place = some node ∨ (s.dropHeld cwd slot).tree.at? place = none := by
    intro s slot h
    unfold dropHeld
    split
    · exact Lease.drop_spares _ cwd h
    · exact .inl h
  cases act with
  | acquire slot id document trouble =>
    have hstays := (d.acquire_cases cwd trouble id document s.tree).stays h
    simp only [step]
    generalize d.acquire cwd trouble id document s.tree = outcome at hstays
    obtain ⟨_ | lease, t⟩ := outcome
    · exact .inl hstays
    · exact hdropped (s.record (.acquired document lease) t) slot hstays
  | release slot =>
    simp only [step]
    split
    · exact Lease.removeFile_spares _ cwd h
    · exact .inl h
  | drop slot => exact hdropped s slot h
  | close slot => exact .inl h
  | adopt slot id path => exact hdropped s slot h

/-- Releasing or dropping a lease whose file is gone empties its slot and changes no file. -/
theorem step_gone {slot : Nat} {lease : Lease} (hlease : s.leases slot = some lease)
    (hgone : ∀ place, s.tree.locate cwd false lease.path = .ok place → s.tree.at? place = none) {act : Act}
    (hact : act = .release slot ∨ act = .drop slot) :
    (s.step d cwd act).tree = s.tree ∧ (s.step d cwd act).leases slot = none := by
  have hremove := Lease.removeFile_gone hgone
  obtain ⟨more, lease?, hdoes, -, hleases⟩ := s.does_step d cwd act
  rcases hact with rfl | rfl
  · cases hdoes
    rw [hleases, Act.slot, Function.update_self]
    simp [step, hlease, InputDirectory.release, hremove]
  · cases hdoes
    rw [hleases, Act.slot, Function.update_self]
    simp [step, dropHeld, hlease, Lease.drop, hremove]

end

/-- What is known of the files after any acts, and of any act that comes next. -/
structure Owned (d : InputDirectory) (cwd : Place) (initial : Tree) (s : Slots) : Prop where
  /-- A file is there exactly when it was there at first or was acquired, and no lease that leads to it was released, or
  dropped while it was open, since then; its content is what it was then. Directories stay. -/
  law : Lawful cwd initial s.history s.tree
  /-- An act changes no file that is there: it leaves the file as it is or takes it away. -/
  content : ∀ act place node, s.tree.at? place = some node →
    (s.step d cwd act).tree.at? place = some node ∨ (s.step d cwd act).tree.at? place = none
  /-- Nothing is acquired where something stands already. It stays as it is, and so do the leases. -/
  occupied : ∀ slot id document trouble place node, InputDirectory.isSafeId id = true →
    s.tree.locate cwd false (d.pathFor id) = .ok place → s.tree.at? place = some node →
      (∃ fault, (d.acquire cwd trouble id document s.tree).1 = .error (.io fault)) ∧
      (s.step d cwd (.acquire slot id document trouble)).tree.at? place = some node ∧
      (s.step d cwd (.acquire slot id document trouble)).leases = s.leases
  /-- A lease whose file is gone may be released or dropped all the same, and no file changes. -/
  gone : ∀ slot lease, s.leases slot = some lease →
    (∀ place, s.tree.locate cwd false lease.path = .ok place → s.tree.at? place = none) →
      ∀ act, act = .release slot ∨ act = .drop slot →
        (s.step d cwd act).tree = s.tree ∧ (s.step d cwd act).leases slot = none

/-- Whatever is done to leases, in whatever order and with whatever the operating system refuses, files belong to the
leases that lead to them. -/
theorem files_owned (d : InputDirectory) (cwd : Place) (initial : Tree) (acts : List Act) :
    Owned d cwd initial (run d cwd initial acts) := by
  have hlaw := lawful_run d cwd initial acts
  generalize run d cwd initial acts = s at hlaw
  refine ⟨hlaw, fun act _ _ => step_spares act, ?_, fun _ _ hlease hgone _ => step_gone hlease hgone⟩
  intro slot id document trouble place node hsafe hlocated hat
  obtain ⟨cause, t, hacquire⟩ := InputDirectory.acquire_occupied hsafe hlocated hat trouble document
  have hstays := (d.acquire_cases cwd trouble id document s.tree).stays hat
  rw [hacquire] at hstays
  simp only [step, hacquire]
  exact ⟨⟨cause, rfl⟩, hstays, rfl⟩

/-- Two leases lead to one file: the second to be dropped takes away the file that was acquired anew in between. -/
example :
    let path : Path := .ofString "/in/input-a.json"
    let s := run ⟨.ofString "/in"⟩ [] {} [.acquire 0 "a" "1" {}, .adopt 1 "b" path, .drop 1, .acquire 2 "a" "2" {}, .drop 0]
    s.tree.isDirectory [] (.ofString "/in") = true ∧ s.tree.read [] path = .error (.os .notFound) := by
  decide

end Slots
end QueryGateway
