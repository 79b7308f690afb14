import QueryGateway.Input.Errands
import QueryGateway.Proofs.FileOwnership
import QueryGateway.Proofs.Naming

/-!
# What a request leaves behind that is given up

A request may be given up at any moment, and the operations it handed over are carried out in any order and at any time
after that. When they all were, nothing is left of it (`Errand.left_behind`), unless it was given up while its file was
being created and it had not heard of it (`Errand.Spilt`): then an empty file may be left, and one that was created by
then stays for good. Nobody touches the file of another request. Every turn keeps a request in order (`Orderly.take`),
and a request that is left alone comes to what an acquisition and a release come to (`takes_acquire`, `takes_release`).
-/

namespace QueryGateway

open QueryGateway.Tree (Alters AddsDirectories Gains Keeps)

namespace Errand

/-! ## The file of a request -/

/-- A place that has the name of a request's file. -/
def Named (e : Errand) (p : Place) : Prop :=
  p.head? = some (Text.encode (InputDirectory.fileName e.id))

/-- Nothing is there of a request: under its name there is what was there at first, or a directory made since. -/
def Clear (e : Errand) (initial now : Tree) : Prop :=
  ∀ p, e.Named p → Gains (initial.at? p) (now.at? p)

/-- The path of a request leads to a place of its name where nothing was at first. -/
structure Leads (d : InputDirectory) (cwd : Place) (e : Errand) (initial now : Tree) (place : Place) : Prop where
  located : now.locate cwd false (d.pathFor e.id) = .ok place
  named : e.Named place
  new : initial.at? place = none

/-- The file of a request stands at such a place, and nothing else is there of it. -/
structure Stands (d : InputDirectory) (cwd : Place) (e : Errand) (initial now : Tree) (place : Place)
    (content : Bytes) : Prop extends Leads d cwd e initial now place where
  there : now.at? place = some (.file content Tree.fileMode)
  elsewhere : ∀ p, e.Named p → p ≠ place → Gains (initial.at? p) (now.at? p)

/-- A change of the files spares a request: its path leads where it led, and under its name directories are made at
most. -/
structure Spares (e : Errand) (t t' : Tree) : Prop where
  ways : Keeps t t'
  named : ∀ p, e.Named p → Gains (t.at? p) (t'.at? p)

/-- A change of the files is one request's own: elsewhere than under its name directories are made at most. -/
structure Within (e : Errand) (t t' : Tree) : Prop where
  ways : Keeps t t'
  elsewhere : ∀ p, ¬ e.Named p → Gains (t.at? p) (t'.at? p)

section
variable {d : InputDirectory} {cwd place : Place} {e e' : Errand} {initial t t' : Tree} {content content' : Bytes}

theorem Within.refl (e : Errand) (t : Tree) : Within e t t :=
  ⟨.refl t, fun _ _ => .inl rfl⟩

theorem Within.trans {t'' : Tree} (h : Within e t t') (h' : Within e t' t'') : Within e t t'' :=
  ⟨h.ways.trans h'.ways, fun p hp => (h.elsewhere p hp).trans (h'.elsewhere p hp)⟩

theorem Within.of_adds (h : AddsDirectories t t') : Within e t t' :=
  ⟨h.keeps, fun p _ => h p⟩

/-- A change at one place under the name of a request, where neither a directory nor a link stood nor is put. -/
theorem Within.of_alters {node? : Option Node} (hplace : e.Named place) (h : Alters place node? t t')
    (hdirectory : t.at? place ≠ some .directory) (hlink : ∀ target, t.at? place ≠ some (.link target))
    (hnew : ∀ target, node? ≠ some (.link target)) : Within e t t' := by
  refine ⟨.of_alters h hdirectory hlink hnew, fun p hp => .inl (h.other ?_)⟩
  rintro rfl
  exact hp hplace

/-- What one request does spares another. -/
theorem Within.spares (h : Within e t t') (hid : e.id ≠ e'.id) : Spares e' t t' := by
  refine ⟨h.ways, fun p hp => h.elsewhere p fun hp' => hid ?_⟩
  exact InputDirectory.encode_fileName_injective (Option.some.inj (hp'.symm.trans hp))

theorem Spares.of_adds (h : AddsDirectories t t') : Spares e t t' :=
  ⟨h.keeps, fun p _ => h p⟩

theorem Clear.spares (h : e.Clear initial t) (hspares : Spares e t t') : e.Clear initial t' :=
  fun p hp => (h p hp).trans (hspares.named p hp)

theorem Leads.keeps (h : e.Leads d cwd initial t place) (hkeeps : Keeps t t') : e.Leads d cwd initial t' place :=
  ⟨hkeeps.locate h.located, h.named, h.new⟩

theorem Stands.spares (h : e.Stands d cwd initial t place content) (hspares : Spares e t t') :
    e.Stands d cwd initial t' place content where
  toLeads := h.toLeads.keeps hspares.ways
  there := (hspares.named place h.named).stays h.there
  elsewhere p hp hne := (h.elsewhere p hp hne).trans (hspares.named p hp)

/-! ## Operations -/

/-- A file that was created stands, empty, and it is all there is. -/
theorem Clear.created (h : e.Clear initial t) (hsafe : InputDirectory.isSafeId e.id = true)
    (hcreate : InputDirectory.createFile cwd e.trouble (d.pathFor e.id) t = .ok t') :
    (∃ place, e.Stands d cwd initial t' place []) ∧ Within e t t' := by
  obtain ⟨place, hlocated, hvacant, halters⟩ := InputDirectory.createFile_alters hcreate
  have hplace : e.Named place := InputDirectory.head?_of_locate hsafe hlocated
  have hwithin : Within e t t' := .of_alters hplace halters (by simp [hvacant]) (by simp [hvacant]) nofun
  refine ⟨⟨place, ⟨hwithin.ways.locate hlocated, hplace, (h place hplace).vacant hvacant⟩, halters.self, ?_⟩, hwithin⟩
  intro p hp hne
  rw [halters.other hne]
  exact h p hp

/-- Writing to a file that stands gives it its content. -/
theorem Stands.written (h : e.Stands d cwd initial t place content) (content' : Bytes) :
    ∃ t', t.write cwd (d.pathFor e.id) content' = .ok t' ∧ e.Stands d cwd initial t' place content' ∧
      Within e t t' := by
  obtain ⟨t', hwrite, halters⟩ := Tree.write_alters h.located h.there content'
  have hwithin : Within e t t' :=
    .of_alters h.named halters (by simp [h.there]) (by simp [h.there]) nofun
  refine ⟨t', hwrite, ⟨h.toLeads.keeps hwithin.ways, halters.self, ?_⟩, hwithin⟩
  intro p hp hne
  rw [halters.other hne]
  exact h.elsewhere p hp hne

/-- A file that stands is taken away, and then nothing is there of the request. -/
theorem Stands.removed (h : e.Stands d cwd initial t place content) :
    e.Clear initial ((e.lease d).removeFile cwd t) ∧ e.Leads d cwd initial ((e.lease d).removeFile cwd t) place ∧
      Within e t ((e.lease d).removeFile cwd t) := by
  have halters : Alters place none t ((e.lease d).removeFile cwd t) := Lease.removeFile_alters h.located h.there
  have hwithin : Within e t ((e.lease d).removeFile cwd t) :=
    .of_alters h.named halters (by simp [h.there]) (by simp [h.there]) nofun
  refine ⟨fun p hp => ?_, h.toLeads.keeps hwithin.ways, hwithin⟩
  by_cases hne : p = place
  · subst hne
    exact .inl (halters.self.trans h.new.symm)
  · rw [halters.other hne]
    exact h.elsewhere p hp hne

/-- A file that is gone is not taken away again, nor is anything else. -/
theorem Clear.removed (h : e.Clear initial t) (hleads : e.Leads d cwd initial t place) :
    (e.lease d).removeFile cwd t = t := by
  rcases (e.lease d).removeFile_cases cwd t with ⟨place', node, hlocated, hat, hnode, -⟩ | ⟨hsame, -⟩
  · obtain rfl := Except.ok.inj (hlocated.symm.trans hleads.located)
    have hfirst := (h place' hleads.named).was hnode hat
    rw [hleads.new] at hfirst
    cases hfirst
  · exact hsame

end

/-! ## Where a request stands -/

namespace Progress

/-- Whether a request has been looked at and has not come to an end. -/
def underWay : Progress → Bool
  | waiting _ => true
  | answered _ _ => true
  | serving => true
  | adrift _ => true
  | _ => false

end Progress

/-- What there is of a request. -/
inductive Share where
  | nothing
  /-- Its file was there, and is not any more. -/
  | removed
  | file (content : Bytes)
  /-- Nothing, but its file may still be created. -/
  | spilling
  /-- Nothing, or an empty file. -/
  | spilt

/-- What there is of a request that stands somewhere. -/
def share (e : Errand) : Progress → Share
  | .answered .create none => .file []
  | .waiting .write => .file []
  | .answered .write _ => .file e.written
  | .waiting .flush => .file e.written
  | .answered .flush _ => .file e.written
  | .serving => .file e.written
  | .waiting .remove => .file e.written
  | .answered .remove _ => .removed
  | .adrift .remove => .removed
  | .adrift .create => .spilling
  | .gone => .spilt
  | _ => .nothing

/-- The files show a request's share. `spilt` says that it was given up while its file was being created. -/
def Shows (d : InputDirectory) (cwd : Place) (e : Errand) (initial now : Tree) (spilt : Prop) : Share → Prop
  | .nothing => e.Clear initial now
  | .removed => e.Clear initial now ∧ ∃ place, e.Leads d cwd initial now place
  | .file content => ∃ place, e.Stands d cwd initial now place content
  | .spilling => e.Clear initial now ∧ spilt
  | .spilt => e.Clear initial now ∨ spilt ∧ ∃ place, e.Stands d cwd initial now place []

/-- What is known of a request: only one with a safe name is under way, and the files show its share. -/
structure Orderly (d : InputDirectory) (cwd : Place) (e : Errand) (initial now : Tree) (spilt : Prop)
    (progress : Progress) : Prop where
  safe : progress.underWay = true → InputDirectory.isSafeId e.id = true
  shows : e.Shows d cwd initial now spilt (e.share progress)

section
variable {d : InputDirectory} {cwd : Place} {e : Errand} {initial t t' : Tree} {spilt spilt' : Prop}
  {progress progress' : Progress} {job : Job} {share : Share}

/-- A change that spares a request leaves its share as it is. -/
theorem Shows.spares (h : e.Shows d cwd initial t spilt share) (hspares : Spares e t t') (hspilt : spilt → spilt') :
    e.Shows d cwd initial t' spilt' share := by
  cases share with
  | nothing => exact Clear.spares h hspares
  | removed =>
    obtain ⟨hclear, place, hleads⟩ := h
    exact ⟨hclear.spares hspares, place, hleads.keeps hspares.ways⟩
  | file content =>
    obtain ⟨place, hstands⟩ := h
    exact ⟨place, hstands.spares hspares⟩
  | spilling => exact ⟨h.1.spares hspares, hspilt h.2⟩
  | spilt =>
    rcases h with hclear | ⟨hhere, place, hstands⟩
    · exact .inl (hclear.spares hspares)
    · exact .inr ⟨hspilt hhere, place, hstands.spares hspares⟩

theorem Orderly.spares (h : Orderly d cwd e initial t spilt progress) (hspares : Spares e t t')
    (hspilt : spilt → spilt') : Orderly d cwd e initial t' spilt' progress :=
  ⟨h.safe, h.shows.spares hspares hspilt⟩

/-- A request that goes on without a change of the files keeps its share. -/
theorem Orderly.still (h : Orderly d cwd e initial t spilt progress)
    (hsafe : progress'.underWay = true → progress.underWay = true) (hshare : e.share progress' = e.share progress) :
    Orderly d cwd e initial t spilt progress' ∧ Within e t t := by
  refine ⟨⟨fun h' => h.safe (hsafe h'), ?_⟩, .refl e t⟩
  rw [hshare]
  exact h.shows

/-- When the lease of a request is dropped, nothing is there any more. -/
theorem Orderly.dropped (h : Orderly d cwd e initial t spilt progress) (hleased : progress.leased = true) :
    e.Clear initial ((e.lease d).drop cwd t) ∧ (∃ place, e.Leads d cwd initial ((e.lease d).drop cwd t) place) ∧
      Within e t ((e.lease d).drop cwd t) := by
  have hshare : e.share progress = .removed ∨ ∃ content, e.share progress = .file content := by
    cases progress with
    | waiting job => cases job <;> simp [Progress.leased, Job.leased, share] at hleased ⊢
    | answered job fault? => cases job <;> simp [Progress.leased, Job.leased, share] at hleased ⊢
    | serving => exact .inr ⟨_, rfl⟩
    | _ => cases hleased
  have hdrop : (e.lease d).drop cwd t = (e.lease d).removeFile cwd t := if_neg (by simp [lease])
  have hshows := h.shows
  rw [hdrop]
  rcases hshare with hshare | ⟨content, hshare⟩
  · rw [hshare] at hshows
    obtain ⟨hclear, place, hleads⟩ := hshows
    rw [hclear.removed hleads]
    exact ⟨hclear, ⟨place, hleads⟩, .refl e t⟩
  · rw [hshare] at hshows
    obtain ⟨place, hstands⟩ := hshows
    obtain ⟨hclear, hleads, hwithin⟩ := hstands.removed
    exact ⟨hclear, ⟨place, hleads⟩, hwithin⟩

/-! ## One turn -/

/-- A fault ends a request that has a lease, and drops the lease. -/
theorem goOn_fault {job : Job} (hleased : job.leased = true) (hjob : job ≠ .remove) (fault : FileFault) :
    e.goOn d cwd (.answered job (some fault)) t = (.refused (.io fault), (e.lease d).drop cwd t) := by
  cases job with
  | remove => exact absurd rfl hjob
  | _ => simp only [Errand.goOn, hleased, if_true]

/-- A request that goes on is still in order, and touches nothing but its own file. -/
theorem Orderly.goOn (h : Orderly d cwd e initial t spilt progress) :
    Orderly d cwd e initial (e.goOn d cwd progress t).2 spilt (e.goOn d cwd progress t).1 ∧
      Within e t (e.goOn d cwd progress t).2 := by
  have hdropped : ∀ fault, progress.leased = true →
      Orderly d cwd e initial ((e.lease d).drop cwd t) spilt (.refused fault) ∧
        Within e t ((e.lease d).drop cwd t) := by
    intro fault hleased
    obtain ⟨hclear, -, hwithin⟩ := h.dropped hleased
    generalize (e.lease d).drop cwd t = t' at hclear hwithin ⊢
    exact ⟨⟨nofun, hclear⟩, hwithin⟩
  cases progress with
  | fresh =>
    simp only [Errand.goOn]
    split
    case isTrue hsafe => exact ⟨⟨fun _ => hsafe, h.shows⟩, .refl e t⟩
    case isFalse => exact h.still nofun rfl
  | answered job fault? =>
    cases job with
    | prepare =>
      cases fault? with
      | none => exact h.still (fun hgoes => hgoes) rfl
      | some fault => exact h.still nofun rfl
    | create =>
      cases fault? with
      | none => exact h.still (fun hgoes => hgoes) rfl
      | some fault => exact h.still nofun rfl
    | write =>
      cases fault? with
      | none => exact h.still (fun hgoes => hgoes) rfl
      | some fault =>
        rw [goOn_fault rfl (by decide)]
        dsimp only
        exact hdropped _ rfl
    | flush =>
      cases fault? with
      | none => exact h.still (fun hgoes => hgoes) rfl
      | some fault =>
        rw [goOn_fault rfl (by decide)]
        dsimp only
        exact hdropped _ rfl
    | remove => exact ⟨⟨nofun, h.shows.1⟩, .refl e t⟩
  | serving => exact h.still (fun hgoes => hgoes) rfl
  | _ => exact h.still (fun hgoes => hgoes) rfl

/-- What an operation does that a request waits for. -/
theorem Orderly.carryOut (h : Orderly d cwd e initial t spilt (.waiting job)) :
    Orderly d cwd e initial (e.carryOut d cwd job t).2 spilt (.answered job (e.carryOut d cwd job t).1) ∧
      Within e t (e.carryOut d cwd job t).2 := by
  have hsafe := h.safe rfl
  have hshows := h.shows
  cases job with
  | prepare =>
    have hprepare := d.prepare_adds cwd e.trouble t
    exact ⟨⟨fun _ => hsafe, Clear.spares hshows (.of_adds hprepare)⟩, .of_adds hprepare⟩
  | create =>
    simp only [Errand.carryOut]
    split
    case h_1 t' hcreate =>
      obtain ⟨hstands, hwithin⟩ := Clear.created hshows hsafe hcreate
      exact ⟨⟨fun _ => hsafe, hstands⟩, hwithin⟩
    case h_2 => exact ⟨⟨fun _ => hsafe, hshows⟩, .refl e t⟩
  | write =>
    obtain ⟨place, hstands⟩ := hshows
    obtain ⟨t', hwrite, hwritten, hwithin⟩ := hstands.written e.written
    simp only [Errand.carryOut, writeDocument, hwrite]
    exact ⟨⟨fun _ => hsafe, place, hwritten⟩, hwithin⟩
  | flush => exact ⟨⟨fun _ => hsafe, hshows⟩, .refl e t⟩
  | remove =>
    obtain ⟨place, hstands⟩ := hshows
    obtain ⟨hclear, hleads, hwithin⟩ := hstands.removed
    simp only [Errand.carryOut]
    generalize (e.lease d).removeFile cwd t = t' at hclear hleads hwithin ⊢
    exact ⟨⟨fun _ => hsafe, hclear, place, hleads⟩, hwithin⟩

/-- What it does when the request was given up meanwhile. -/
theorem Orderly.carryOut_adrift (h : Orderly d cwd e initial t spilt (.adrift job)) (hname : job.byName = true) :
    Orderly d cwd e initial (e.carryOut d cwd job t).2 spilt .gone ∧ Within e t (e.carryOut d cwd job t).2 := by
  have hshows := h.shows
  cases job with
  | prepare =>
    have hprepare := d.prepare_adds cwd e.trouble t
    exact ⟨⟨nofun, .inl (Clear.spares hshows (.of_adds hprepare))⟩, .of_adds hprepare⟩
  | create =>
    obtain ⟨hclear, hspilt⟩ := hshows
    simp only [Errand.carryOut]
    split
    case h_1 t' hcreate =>
      obtain ⟨hstands, hwithin⟩ := hclear.created (h.safe rfl) hcreate
      exact ⟨⟨nofun, .inr ⟨hspilt, hstands⟩⟩, hwithin⟩
    case h_2 => exact ⟨⟨nofun, .inl hclear⟩, .refl e t⟩
  | remove =>
    obtain ⟨hclear, place, hleads⟩ := hshows
    rw [Errand.carryOut, hclear.removed hleads]
    exact ⟨⟨nofun, .inl hclear⟩, .refl e t⟩
  | _ => cases hname

/-- So is one whose operation is carried out. -/
theorem Orderly.work (h : Orderly d cwd e initial t spilt progress) :
    Orderly d cwd e initial (e.work d cwd progress t).2 spilt (e.work d cwd progress t).1 ∧
      Within e t (e.work d cwd progress t).2 := by
  cases progress with
  | waiting job => exact h.carryOut
  | adrift job =>
    rw [Errand.work]
    dsimp only
    split
    case isTrue hname => exact h.carryOut_adrift hname
    case isFalse hname =>
      have hclear : e.Clear initial t := by
        cases job with
        | write => exact h.shows
        | flush => exact h.shows
        | _ => exact absurd rfl hname
      exact ⟨⟨nofun, .inl hclear⟩, .refl e t⟩
  | _ => exact h.still (fun hgoes => hgoes) rfl

/-- So is one that is given up; if its file is being created, that is what `spilt` says. -/
theorem Orderly.giveUp (h : Orderly d cwd e initial t spilt progress) (hspilt : progress.creating = true → spilt) :
    Orderly d cwd e initial (e.giveUp d cwd progress t).2 spilt (e.giveUp d cwd progress t).1 ∧
      Within e t (e.giveUp d cwd progress t).2 := by
  have hsafe : progress.abandoned.underWay = true → InputDirectory.isSafeId e.id = true := by
    refine fun hunderWay => h.safe ?_
    cases progress with
    | waiting job => rfl
    | adrift job => rfl
    | _ => cases hunderWay
  by_cases hleased : progress.leased = true
  case pos =>
    obtain ⟨hclear, hleads, hwithin⟩ := h.dropped hleased
    rw [Errand.giveUp, if_pos hleased]
    generalize (e.lease d).drop cwd t = t' at hclear hleads hwithin ⊢
    refine ⟨⟨hsafe, ?_⟩, hwithin⟩
    cases progress with
    | waiting job =>
      cases job with
      | write => exact hclear
      | flush => exact hclear
      | remove => exact ⟨hclear, hleads⟩
      | _ => cases hleased
    | answered job fault? => exact .inl hclear
    | serving => exact .inl hclear
    | _ => cases hleased
  case neg =>
    have hshows := h.shows
    rw [Errand.giveUp, if_neg hleased]
    refine ⟨⟨hsafe, ?_⟩, .refl e t⟩
    cases progress with
    | fresh => exact .inl hshows
    | waiting job =>
      cases job with
      | prepare => exact hshows
      | create => exact ⟨hshows, hspilt rfl⟩
      | _ => exact absurd rfl hleased
    | answered job fault? =>
      cases job with
      | prepare => exact .inl hshows
      | create =>
        cases fault? with
        | none => exact .inr ⟨hspilt rfl, hshows⟩
        | some fault => exact .inl hshows
      | _ => exact absurd rfl hleased
    | serving => exact absurd rfl hleased
    | _ => exact hshows

/-- Every turn keeps a request in order and touches nothing but its own file. -/
theorem Orderly.take (h : Orderly d cwd e initial t spilt progress) (turn : Turn)
    (hspilt : turn = .giveUp → progress.creating = true → spilt) :
    Orderly d cwd e initial (e.take d cwd turn progress t).2 spilt (e.take d cwd turn progress t).1 ∧
      Within e t (e.take d cwd turn progress t).2 := by
  cases turn with
  | goOn => exact h.goOn
  | work => exact h.work
  | giveUp => exact h.giveUp (hspilt rfl)

end

/-! ## Any turns -/

/-- A request was given up while its file was being created, and had not heard that it was. -/
def Spilt (d : InputDirectory) (cwd : Place) (errands : Nat → Errand) (initial : Tree) (acts : List Act) (i : Nat) :
    Prop :=
  ∃ before after, acts = before ++ ⟨i, .giveUp⟩ :: after ∧
    ((Course.run d cwd errands initial before).progress i).creating = true

section
variable {d : InputDirectory} {cwd : Place} {errands : Nat → Errand} {initial : Tree} {acts : List Act} {i : Nat}

theorem Spilt.concat (h : Spilt d cwd errands initial acts i) (act : Act) :
    Spilt d cwd errands initial (acts ++ [act]) i := by
  obtain ⟨before, after, rfl, hcreating⟩ := h
  exact ⟨before, after ++ [act], by simp, hcreating⟩

namespace Course

theorem run_concat (acts : List Act) (act : Act) :
    run d cwd errands initial (acts ++ [act]) = (run d cwd errands initial acts).step d cwd errands act :=
  List.foldl_append

/-- An act keeps everybody in order, and spares everybody but the one whose turn it is. -/
theorem orderly_step (hdistinct : Function.Injective fun i => (errands i).id) {c : Course} {spilt : Nat → Prop}
    (h : ∀ i, Orderly d cwd (errands i) initial c.tree (spilt i) (c.progress i)) (act : Act)
    (hspilt : act.turn = .giveUp → (c.progress act.who).creating = true → spilt act.who) (i : Nat) :
    Orderly d cwd (errands i) initial (c.step d cwd errands act).tree (spilt i)
        ((c.step d cwd errands act).progress i) ∧
      (act.who ≠ i → Spares (errands i) c.tree (c.step d cwd errands act).tree) := by
  obtain ⟨horderly, hwithin⟩ := (h act.who).take act.turn hspilt
  have hspares : act.who ≠ i → Spares (errands i) c.tree (c.step d cwd errands act).tree :=
    fun hne => hwithin.spares fun hid => hne (hdistinct hid)
  refine ⟨?_, hspares⟩
  by_cases hi : i = act.who
  · subst hi
    simpa only [step, if_true] using horderly
  · have hother := (h i).spares (hspares (Ne.symm hi)) fun hspilt => hspilt
    simpa only [step, if_neg hi] using hother

/-- After any acts everybody is in order. -/
theorem orderly_run (hdistinct : Function.Injective fun i => (errands i).id) (acts : List Act) (i : Nat) :
    Orderly d cwd (errands i) initial (run d cwd errands initial acts).tree (Spilt d cwd errands initial acts i)
      ((run d cwd errands initial acts).progress i) := by
  induction acts using List.reverseRecOn generalizing i with
  | nil => exact ⟨nofun, fun p _ => .inl rfl⟩
  | append_singleton acts act ih =>
    rw [run_concat]
    refine (orderly_step hdistinct (fun i => ?_) act ?_ i).1
    · exact ⟨(ih i).safe, (ih i).shows.spares (.of_adds (.refl _)) fun hspilt => hspilt.concat act⟩
    · intro hturn hcreating
      exact ⟨acts, [], by rw [← hturn], hcreating⟩

/-- An act of one request spares every other. -/
theorem spares_step (hdistinct : Function.Injective fun i => (errands i).id) (acts : List Act) {act : Act}
    (hi : act.who ≠ i) :
    Spares (errands i) (run d cwd errands initial acts).tree (run d cwd errands initial (acts ++ [act])).tree := by
  have horderly : ∀ j, Orderly d cwd (errands j) initial (run d cwd errands initial acts).tree True
      ((run d cwd errands initial acts).progress j) :=
    fun j => (orderly_run hdistinct acts j).spares (.of_adds (.refl _)) fun _ => trivial
  rw [run_concat]
  exact (orderly_step hdistinct horderly act (fun _ _ => trivial) i).2 hi

/-- A request that was given up does nothing more, and nobody touches what it left. -/
theorem left_step (hdistinct : Function.Injective fun i => (errands i).id) (act : Act)
    (hgone : (run d cwd errands initial acts).progress i = .gone) :
    (run d cwd errands initial (acts ++ [act])).progress i = .gone ∧
      Spares (errands i) (run d cwd errands initial acts).tree (run d cwd errands initial (acts ++ [act])).tree := by
  by_cases hi : act.who = i
  · have hidle : (errands i).take d cwd act.turn .gone (run d cwd errands initial acts).tree =
        (.gone, (run d cwd errands initial acts).tree) := by
      cases act.turn <;> rfl
    simp only [run_concat, step, hi, hgone, hidle, if_true]
    exact ⟨trivial, .of_adds (.refl _)⟩
  · refine ⟨?_, spares_step hdistinct acts hi⟩
    simp only [run_concat, step, if_neg (Ne.symm hi)]
    exact hgone

/-- What a request has left that was given up is left for good. -/
theorem left_run (hdistinct : Function.Injective fun i => (errands i).id) {place : Place} {content : Bytes}
    (hgone : (run d cwd errands initial acts).progress i = .gone)
    (hstands : (errands i).Stands d cwd initial (run d cwd errands initial acts).tree place content)
    (more : List Act) : (run d cwd errands initial (acts ++ more)).progress i = .gone ∧
      (errands i).Stands d cwd initial (run d cwd errands initial (acts ++ more)).tree place content := by
  induction more using List.reverseRecOn with
  | nil => simpa using ⟨hgone, hstands⟩
  | append_singleton more act ih =>
    rw [← List.append_assoc]
    obtain ⟨hgone', hspares⟩ := left_step hdistinct act ih.1
    exact ⟨hgone', ih.2.spares hspares⟩

end Course

/-- What is left of the requests, once given up or over, after some acts and whatever acts come later. -/
structure LeftBehind (d : InputDirectory) (cwd : Place) (errands : Nat → Errand) (initial : Tree) (acts : List Act) :
    Prop where
  /-- Of a request that was given up, and for which nothing is under way any more, nothing is left, unless it was given
  up while its file was being created; then it may be an empty file. -/
  gone : ∀ i, (Course.run d cwd errands initial acts).progress i = .gone →
    (errands i).Clear initial (Course.run d cwd errands initial acts).tree ∨
      (Spilt d cwd errands initial acts i ∧
        ∃ place, (errands i).Stands d cwd initial (Course.run d cwd errands initial acts).tree place [])
  /-- Of a request that has run to its end nothing is left. -/
  ended : ∀ i, (Course.run d cwd errands initial acts).progress i = .finished ∨
      (∃ fault, (Course.run d cwd errands initial acts).progress i = .refused fault) →
    (errands i).Clear initial (Course.run d cwd errands initial acts).tree
  /-- An act of one request spares the file of every other. -/
  spares : ∀ i act, act.who ≠ i →
    Spares (errands i) (Course.run d cwd errands initial acts).tree
      (Course.run d cwd errands initial (acts ++ [act])).tree
  /-- A request that is given up when its file was created, before it has heard of it, leaves the file for good. -/
  spilt : ∀ i more, (Course.run d cwd errands initial acts).progress i = .answered .create none →
    ∃ place, (errands i).Stands d cwd initial
      (Course.run d cwd errands initial (acts ++ ⟨i, .giveUp⟩ :: more)).tree place []

/-- Requests with names of their own may be given up at any moment, and their operations be carried out in any order. -/
theorem left_behind (hdistinct : Function.Injective fun i => (errands i).id) (acts : List Act) :
    LeftBehind d cwd errands initial acts := by
  have horderly : ∀ i, Orderly d cwd (errands i) initial (Course.run d cwd errands initial acts).tree
      (Spilt d cwd errands initial acts i) ((Course.run d cwd errands initial acts).progress i) :=
    Course.orderly_run hdistinct acts
  refine ⟨?_, ?_, fun i act hi => Course.spares_step hdistinct acts hi, ?_⟩
  · intro i hgone
    have hshows := (horderly i).shows
    rw [hgone] at hshows
    exact hshows
  · intro i hended
    have hshows := (horderly i).shows
    rcases hended with hfinished | ⟨fault, hrefused⟩
    · rw [hfinished] at hshows
      exact hshows
    · rw [hrefused] at hshows
      exact hshows
  · intro i more hcreated
    have hshows := (horderly i).shows
    rw [hcreated] at hshows
    obtain ⟨place, hstands⟩ := hshows
    have hstep : Course.run d cwd errands initial (acts ++ [⟨i, .giveUp⟩]) =
        { tree := (Course.run d cwd errands initial acts).tree,
          progress := fun j => if j = i then .gone else (Course.run d cwd errands initial acts).progress j } := by
      rw [Course.run_concat]
      simp only [Course.step, take, giveUp, hcreated]
      rfl
    have hgone : (Course.run d cwd errands initial (acts ++ [⟨i, .giveUp⟩])).progress i = .gone := by
      rw [hstep]
      exact if_pos rfl
    refine ⟨place, ?_⟩
    rw [List.append_cons]
    refine (Course.left_run hdistinct hgone ?_ more).2
    rw [hstep]
    exact hstands

/-- Two requests are given up while their files are being created; the first had its file by then, the second's is
created later. Both files stay. A third is given up when it has heard of its file, and takes it away. -/
example :
    let errands : Nat → Errand := fun i => ⟨["a", "b"].getD i "c", "[]", {}⟩
    let created : List Turn := [.goOn, .work, .goOn, .work]
    let acts : List Act := created.map (Act.mk 0) ++ (created.take 3).map (Act.mk 1) ++ created.map (Act.mk 2) ++
      [⟨1, .giveUp⟩, ⟨0, .giveUp⟩, ⟨2, .goOn⟩, ⟨2, .giveUp⟩, ⟨1, .work⟩, ⟨2, .work⟩]
    let c := Course.run ⟨.ofString "/in"⟩ [] errands {} acts
    [0, 1, 2].map c.progress = [.gone, .gone, .gone] ∧
      ["a", "b", "c"].map (fun id => c.tree.read [] (.ofString ("/in/input-" ++ id ++ ".json"))) =
        [.ok [], .ok [], .error (.os .notFound)] := by
  decide

end

/-! ## A request that is never given up -/

/-- Where a request stands after an acquisition. -/
def Progress.ofAcquisition : Except StoreFault Lease → Progress
  | .ok _ => serving
  | .error fault => refused fault

section
variable (d : InputDirectory) (cwd : Place) (e : Errand) (t : Tree)

/-- Writing and flushing are the filling of a file, and after a fault the lease is dropped. -/
theorem takes_fill :
    (∀ t', InputDirectory.fill e.trouble cwd (d.pathFor e.id) (Text.encode e.document) t = .ok t' →
      e.takes d cwd [.work, .goOn, .work, .goOn] (.waiting .write, t) = (.serving, t')) ∧
    (∀ fault t', InputDirectory.fill e.trouble cwd (d.pathFor e.id) (Text.encode e.document) t = .error (fault, t') →
      e.takes d cwd [.work, .goOn, .work, .goOn] (.waiting .write, t) =
        (.refused (.io fault), (e.lease d).drop cwd t')) := by
  unfold InputDirectory.fill
  cases htrouble : e.trouble.write with
  | none =>
    cases hwrite : t.write cwd (d.pathFor e.id) (Text.encode e.document) with
    | error fault => simp [takes, take, goOn, work, carryOut, writeDocument, written, htrouble, hwrite, Job.leased]
    | ok t' =>
      cases hflush : e.trouble.flush <;>
        simp [takes, take, goOn, work, carryOut, writeDocument, written, htrouble, hwrite, hflush, Job.leased]
  | some part =>
    cases hwrite : t.write cwd (d.pathFor e.id) ((Text.encode e.document).take part.1) <;>
      simp [takes, take, goOn, work, carryOut, writeDocument, written, htrouble, hwrite, Job.leased]

/-- One that is left alone comes by its input as an acquisition does. -/
theorem takes_acquire :
    e.takes d cwd [.goOn, .work, .goOn, .work, .goOn, .work, .goOn, .work, .goOn] (.fresh, t) =
      (.ofAcquisition (d.acquire cwd e.trouble e.id e.document t).1,
        (d.acquire cwd e.trouble e.id e.document t).2) := by
  unfold InputDirectory.acquire
  by_cases hsafe : InputDirectory.isSafeId e.id = true
  · rcases hprepare : d.prepare cwd e.trouble t with ⟨none | fault, t₁⟩
    · cases hcreate : InputDirectory.createFile cwd e.trouble (d.pathFor e.id) t₁ with
      | error fault =>
        simp [takes, take, goOn, work, carryOut, hsafe, hprepare, hcreate, Progress.ofAcquisition, Job.leased]
      | ok t₂ =>
        have hbegun : e.takes d cwd [.goOn, .work, .goOn, .work, .goOn, .work, .goOn, .work, .goOn] (.fresh, t) =
            e.takes d cwd [.work, .goOn, .work, .goOn] (.waiting .write, t₂) := by
          simp [takes, take, goOn, work, carryOut, hsafe, hprepare, hcreate]
        obtain ⟨hfilled, hfailed⟩ := e.takes_fill d cwd t₂
        rw [hbegun]
        cases hfill : InputDirectory.fill e.trouble cwd (d.pathFor e.id) (Text.encode e.document) t₂ with
        | ok t₃ => simp [hfilled t₃ hfill, hsafe, hcreate, hfill, Progress.ofAcquisition]
        | error broken => simp [hfailed broken.1 broken.2 hfill, hsafe, hcreate, hfill, Progress.ofAcquisition, lease]
    · simp [takes, take, goOn, work, carryOut, hsafe, hprepare, Progress.ofAcquisition, Job.leased]
  · simp [takes, take, goOn, work, hsafe, Progress.ofAcquisition]

/-- And it releases its input as a release does. -/
theorem takes_release : e.takes d cwd [.goOn, .work, .goOn] (.serving, t) =
    (.finished, (InputDirectory.release cwd (e.lease d) t).2) := by
  simp only [takes, List.foldl_cons, List.foldl_nil, take, goOn, work, carryOut, InputDirectory.release]

end

end Errand
end QueryGateway
