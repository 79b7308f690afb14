import QueryGateway.Input.Directory
import QueryGateway.Proofs.Walk

/-!
# What the directory of inputs does to the files

An acquisition either fails, and then the files are as they were, or it adds one file where nothing stood, with the
whole document in it (`Settles`, `acquire_cases`). A lease that is released or dropped takes its own file away and
nothing else (`removeFile_alters`). Directories that are missing on the way are made in either case, and none beside
them (`MakesWay`).
-/

namespace QueryGateway
namespace Tree

/-! ## Making directories -/

/-- At one place there is what was there before, or a directory where nothing was. -/
def Gains (node? node?' : Option Node) : Prop :=
  node?' = node? ∨ (node? = none ∧ node?' = some .directory)

namespace Gains

variable {node? node?' node?'' : Option Node} {node : Node}

theorem trans (h : Gains node? node?') (h' : Gains node?' node?'') : Gains node? node?'' := by
  rcases h with he | ⟨hnone, hdir⟩ <;> rcases h' with he' | ⟨hnone', hdir'⟩
  · exact .inl (he'.trans he)
  · exact .inr ⟨he.symm.trans hnone', hdir'⟩
  · exact .inr ⟨hnone, he'.trans hdir⟩
  · exact .inr ⟨hnone, hdir'⟩

/-- What was there is there. -/
theorem stays (h : Gains node? node?') (hnode : node? = some node) : node?' = some node := by
  rcases h with he | ⟨hnone, _⟩
  · exact he.trans hnode
  · rw [hnone] at hnode; nomatch hnode

/-- Where nothing is, nothing was. -/
theorem vacant (h : Gains node? node?') (hnone : node?' = none) : node? = none := by
  rcases h with he | ⟨hnone', _⟩
  · exact he.symm.trans hnone
  · exact hnone'

/-- What is there and is no directory was there. -/
theorem was (h : Gains node? node?') (hdirectory : node ≠ .directory) (hnode : node?' = some node) :
    node? = some node := by
  rcases h with he | ⟨_, hdir⟩
  · exact he.symm.trans hnode
  · exact absurd (Option.some.inj (hnode.symm.trans hdir)) hdirectory

end Gains

/-- A tree has all that another has, and beside it only directories. -/
def AddsDirectories (t t' : Tree) : Prop :=
  ∀ p, Gains (t.at? p) (t'.at? p)

namespace AddsDirectories

theorem refl (t : Tree) : AddsDirectories t t := fun _ => .inl rfl

theorem trans {t₁ t₂ t₃ : Tree} (h : AddsDirectories t₁ t₂) (h' : AddsDirectories t₂ t₃) : AddsDirectories t₁ t₃ :=
  fun p => (h p).trans (h' p)

/-- Added directories change no way. -/
theorem keeps {t t' : Tree} (h : AddsDirectories t t') : Keeps t t' :=
  ⟨(h _).stays, (h _).was nofun, (h _).stays⟩

end AddsDirectories

/-- A path leads through another: that is the path itself, or one that it lies in. -/
def Through (p q : Path) : Prop :=
  ∃ n, ancestor? n p = some q

namespace Through

variable {p q r : Path}

theorem self (p : Path) : Through p p := ⟨0, rfl⟩

theorem up {parent : Path} (hparent : parent? p = some parent) (h : Through parent q) : Through p q := by
  obtain ⟨n, h⟩ := h
  exact ⟨n + 1, by rw [ancestor?, hparent, Option.bind_some, h]⟩

theorem trans (h : Through p q) (h' : Through q r) : Through p r := by
  obtain ⟨n, h⟩ := h
  induction n generalizing p with
  | zero => rwa [Option.some.inj h]
  | succ n ih =>
    obtain ⟨parent, hparent, h⟩ := Option.bind_eq_some_iff.1 h
    exact (ih h).up hparent

end Through

/-- A path without the slashes at its end, unless there is nothing else to it. -/
def bare (p : Path) : Path :=
  if p.bytes.all (· = Path.slash) then p else ⟨(p.bytes.reverse.dropWhile (· = Path.slash)).reverse⟩

/-- At a place there is what was there before, or a directory where nothing was, and a path leads through it. -/
def Spared (cwd : Place) (p : Path) (t t' : Tree) (place : Place) : Prop :=
  t'.at? place = t.at? place ∨
    (t.at? place = none ∧ t'.at? place = some .directory ∧ ∃ q, Through p q ∧ t'.locate cwd false (bare q) = .ok place)

/-- A tree has all that another has, and beside it only directories that a path leads through. -/
def MakesWay (cwd : Place) (p : Path) (t t' : Tree) : Prop :=
  ∀ place, Spared cwd p t t' place

theorem Spared.gains {cwd place : Place} {p : Path} {t t' : Tree} (h : Spared cwd p t t' place) :
    Gains (t.at? place) (t'.at? place) :=
  h.imp_right fun hmade => ⟨hmade.1, hmade.2.1⟩

/-- A change elsewhere that keeps the ways does not matter. -/
theorem Spared.keeps {cwd place : Place} {p : Path} {t t' t'' : Tree} (h : Spared cwd p t t' place)
    (hkeeps : Keeps t' t'') (hsame : t''.at? place = t'.at? place) : Spared cwd p t t'' place := by
  rw [Spared, hsame]
  exact h.imp_right fun ⟨hnone, hmade, q, hthrough, hplace⟩ => ⟨hnone, hmade, q, hthrough, hkeeps.locate hplace⟩

namespace MakesWay

variable {cwd : Place} {p q : Path} {t t' t'' : Tree}

theorem refl (cwd : Place) (p : Path) (t : Tree) : MakesWay cwd p t t := fun _ => .inl rfl

theorem adds (h : MakesWay cwd p t t') : AddsDirectories t t' := fun place => (h place).gains

theorem trans (h : MakesWay cwd p t t') (h' : MakesWay cwd p t' t'') : MakesWay cwd p t t'' := by
  intro place
  rcases h' place with hsame' | hmade'
  · exact (h place).keeps h'.adds.keeps hsame'
  · rcases h place with hsame | hmade
    · exact .inr ⟨hsame.symm.trans hmade'.1, hmade'.2⟩
    · exact absurd (hmade.2.1.symm.trans hmade'.1) nofun

/-- The way of a path that another leads through is part of the other's. -/
theorem through (hthrough : Through p q) (h : MakesWay cwd q t t') : MakesWay cwd p t t' :=
  fun place => (h place).imp_right fun ⟨hnone, hmade, r, hr, hplace⟩ => ⟨hnone, hmade, r, hthrough.trans hr, hplace⟩

end MakesWay

/-- A directory is made where its path leads, slashes at the end left out, and nothing stands. -/
theorem makeDirectory_eq (t : Tree) (cwd : Place) (p : Path) :
    t.makeDirectory cwd p =
      match t.locate cwd false (bare p) with
      | .error fault => .error fault
      | .ok place =>
        if (t.at? place).isSome then .error (.os .alreadyExists) else .ok (t.put place .directory) :=
  rfl

/-- Making a directory adds that one. -/
theorem makeDirectory_makesWay {t t' : Tree} {cwd : Place} {p : Path} (h : t.makeDirectory cwd p = .ok t') :
    MakesWay cwd p t t' := by
  rw [makeDirectory_eq] at h
  split at h
  · nomatch h
  rename_i place hlocated
  split at h
  · nomatch h
  rename_i hvacant
  obtain rfl := Except.ok.inj h
  have hnone : t.at? place = none := by simpa using hvacant
  have halters : Alters place (some .directory) t (t.put place .directory) := Alters.put (by simp [hnone]) _
  have hkeeps : Keeps t (t.put place .directory) := .of_alters halters (by simp [hnone]) (by simp [hnone]) nofun
  intro q
  by_cases hq : q = place
  · subst hq
    exact .inr ⟨hnone, halters.self, p, .self p, hkeeps.locate hlocated⟩
  · exact .inl (halters.other hq)

/-- Making sure of a directory adds that one at most. -/
theorem ensureDirectory_makesWay (t : Tree) (cwd : Place) (p : Path) : MakesWay cwd p t (t.ensureDirectory cwd p).2 := by
  unfold ensureDirectory
  split
  · rename_i t' h
    exact makeDirectory_makesWay h
  · exact .refl cwd p t

/-- Making a directory with those it lies in adds such directories at most, also when it fails half-way. -/
theorem makeDirectories_makesWay (cwd : Place) (left : Nat) : ∀ (t : Tree) (p : Path),
    MakesWay cwd p t (makeDirectories cwd left t p).2 := by
  induction left with
  | zero => intro t p; exact .refl cwd p t
  | succ left ih =>
    intro t p
    have hfirst := ensureDirectory_makesWay t cwd p
    unfold makeDirectories
    split
    · exact .refl cwd p t
    split
    · rename_i e t' hensure
      rw [hensure] at hfirst
      split
      · split
        · exact hfirst
        · rename_i parent hparent
          have habove := (ih t' parent).through (.up hparent (.self parent))
          split
          · rename_i hup
            rw [hup] at habove
            exact hfirst.trans habove
          · rename_i t'' hup
            rw [hup] at habove
            exact (hfirst.trans habove).trans (ensureDirectory_makesWay t'' cwd p)
      · exact hfirst
    · exact hfirst

/-! ## Writing and removing one file -/

/-- Writing to the path of a file changes its content and nothing else. -/
theorem write_alters {t : Tree} {cwd place : Place} {p : Path} {content : Bytes} {mode : Nat}
    (hl : t.locate cwd false p = .ok place) (hfile : t.at? place = some (.file content mode)) (content' : Bytes) :
    ∃ t', t.write cwd p content' = .ok t' ∧ Alters place (some (.file content' mode)) t t' := by
  have hl' := locate_follow hl (by simp [hfile])
  refine ⟨t.put place (.file content' mode), ?_, Alters.put (by simp [hfile]) _⟩
  simp only [write, hl', hfile]

/-- The content of the file at a path. -/
theorem read_file {t : Tree} {cwd place : Place} {p : Path} {content : Bytes} {mode : Nat}
    (hl : t.locate cwd false p = .ok place) (hfile : t.at? place = some (.file content mode)) :
    t.read cwd p = .ok content := by
  have hl' := locate_follow hl (by simp [hfile])
  simp only [read, find, hl', hfile]

end Tree

open QueryGateway.Tree (Alters AddsDirectories Keeps MakesWay)

/-- Closing a lease whose file is there takes that file away and nothing else. -/
theorem Lease.removeFile_alters {t : Tree} {cwd place : Place} {lease : Lease} {content : Bytes} {mode : Nat}
    (hl : t.locate cwd false lease.path = .ok place) (hfile : t.at? place = some (.file content mode)) :
    Alters place none t (lease.removeFile cwd t) := by
  simp only [removeFile, Tree.remove, hl, hfile]
  exact Alters.take (by simp [hfile])

namespace InputDirectory

/-- Making the directory of inputs makes its way at most, also when it is refused half-way. -/
theorem prepare_makesWay (d : InputDirectory) (cwd : Place) (trouble : Trouble) (t : Tree) :
    MakesWay cwd d.path t (d.prepare cwd trouble t).2 := by
  have hway : ∀ p, MakesWay cwd p t (t.makeAll cwd p).2 := fun p => Tree.makeDirectories_makesWay cwd _ t p
  unfold prepare
  split
  case h_1 missing fault _ =>
    split
    case h_1 above habove => exact (hway above).through ⟨missing, habove⟩
    case h_2 => exact .refl cwd d.path t
  case h_2 => exact hway d.path

/-- So it adds directories at most. -/
theorem prepare_adds (d : InputDirectory) (cwd : Place) (trouble : Trouble) (t : Tree) :
    AddsDirectories t (d.prepare cwd trouble t).2 :=
  (d.prepare_makesWay cwd trouble t).adds

/-- A file that was created stands, empty, where nothing stood. -/
theorem createFile_alters {t t' : Tree} {cwd : Place} {trouble : Trouble} {p : Path}
    (h : createFile cwd trouble p t = .ok t') :
    ∃ place, t.locate cwd false p = .ok place ∧ t.at? place = none ∧
      Alters place (some (.file [] Tree.fileMode)) t t' := by
  unfold createFile at h
  split at h
  · nomatch h
  unfold Tree.create at h
  split at h
  · nomatch h
  rename_i place hl
  split at h
  · nomatch h
  rename_i hvacant
  obtain rfl := Except.ok.inj h
  have hnone : t.at? place = none := by simpa using hvacant
  exact ⟨place, hl, hnone, Alters.put (by simp [hnone]) _⟩

/-- A file is created unless the operating system refuses or something stands there already. -/
theorem createFile_ok_iff {t : Tree} {cwd : Place} {trouble : Trouble} {p : Path} :
    (∃ t', createFile cwd trouble p t = .ok t') ↔
      trouble.create = none ∧ ∃ place, t.locate cwd false p = .ok place ∧ t.at? place = none := by
  constructor
  · rintro ⟨t', h⟩
    obtain ⟨place, hl, hvacant, -⟩ := createFile_alters h
    refine ⟨?_, place, hl, hvacant⟩
    cases hcreate : trouble.create with
    | none => rfl
    | some fault => simp [createFile, hcreate] at h
  · rintro ⟨hcreate, place, hl, hvacant⟩
    exact ⟨t.put place (.file [] Tree.fileMode), by simp [createFile, Tree.create, hcreate, hl, hvacant]⟩

/-- Filling a new file ends with a file at its place in every case, with the whole document in it when it succeeds. -/
theorem fill_alters {t : Tree} {cwd place : Place} {p : Path} {mode : Nat} (trouble : Trouble) (document : Bytes)
    (hl : t.locate cwd false p = .ok place) (hfile : t.at? place = some (.file [] mode)) :
    (∃ t', fill trouble cwd p document t = .ok t' ∧ Alters place (some (.file document mode)) t t') ∨
      ∃ fault t' content, fill trouble cwd p document t = .error (fault, t') ∧
        Alters place (some (.file content mode)) t t' := by
  cases hwrite : trouble.write with
  | some part =>
    obtain ⟨count, fault⟩ := part
    obtain ⟨t', hw, halters⟩ := Tree.write_alters hl hfile (document.take count)
    refine .inr ⟨fault, t', document.take count, ?_, halters⟩
    simp only [fill, hwrite, hw]
  | none =>
    obtain ⟨t', hw, halters⟩ := Tree.write_alters hl hfile document
    cases hflush : trouble.flush with
    | some fault => exact .inr ⟨fault, t', document, by simp only [fill, hwrite, hw, hflush], halters⟩
    | none => exact .inl ⟨t', by simp only [fill, hwrite, hw, hflush], halters⟩

/-- A new file is filled unless the operating system refuses. -/
theorem fill_ok_iff {t : Tree} {cwd place : Place} {trouble : Trouble} {p : Path} {document : Bytes} {mode : Nat}
    (hl : t.locate cwd false p = .ok place) (hfile : t.at? place = some (.file [] mode)) :
    (∃ t', fill trouble cwd p document t = .ok t') ↔ trouble.write = none ∧ trouble.flush = none := by
  cases hwrite : trouble.write with
  | some part =>
    obtain ⟨t', hw, -⟩ := Tree.write_alters hl hfile (document.take part.1)
    simp [fill, hwrite, hw]
  | none =>
    obtain ⟨t', hw, -⟩ := Tree.write_alters hl hfile document
    cases hflush : trouble.flush <;> simp [fill, hwrite, hw, hflush]

/-- Nothing stands in the way of an acquisition: the directory of inputs can be made or is there, nothing stands under
the name of the request in it, and the operating system refuses nothing. -/
structure Free (d : InputDirectory) (cwd : Place) (trouble : Trouble) (id : String) (t : Tree) : Prop where
  made : (d.prepare cwd trouble t).1 = none
  vacant : ∃ place, (d.prepare cwd trouble t).2.locate cwd false (d.pathFor id) = .ok place ∧
    (d.prepare cwd trouble t).2.at? place = none
  create : trouble.create = none
  write : trouble.write = none
  flush : trouble.flush = none

/-- What an acquisition comes to for a request with a safe name, told from the files as they are once the directory of
inputs was made. -/
inductive Settles (d : InputDirectory) (cwd : Place) (trouble : Trouble) (id document : String) (t : Tree) :
    Except StoreFault Lease × Tree → Prop where
  /-- It fails, and everything is as it was. -/
  | failed (fault : FileFault) (t' : Tree) : ¬ Free d cwd trouble id t →
      (∀ p, t'.at? p = (d.prepare cwd trouble t).2.at? p) → Settles d cwd trouble id document t (.error (.io fault), t')
  /-- It adds a file where nothing stood. -/
  | provided (t' : Tree) (place : Place) : Free d cwd trouble id t →
      (d.prepare cwd trouble t).2.locate cwd false (d.pathFor id) = .ok place →
      (d.prepare cwd trouble t).2.at? place = none →
      Alters place (some (.file (Text.encode document) Tree.fileMode)) (d.prepare cwd trouble t).2 t' →
      Settles d cwd trouble id document t (.ok { id := id, path := d.pathFor id }, t')

/-- A request with a safe name gets a new file or leaves no trace, whatever the operating system refuses: where a file is
written by half its lease is dropped, and all places are as they were before it was created. -/
theorem acquire_settles (d : InputDirectory) (cwd : Place) (trouble : Trouble) {id : String} (document : String)
    (t : Tree) (hsafe : isSafeId id = true) :
    Settles d cwd trouble id document t (d.acquire cwd trouble id document t) := by
  rw [acquire, if_neg (by simp [hsafe])]
  rcases hprepare : d.prepare cwd trouble t with ⟨_ | fault, t₁⟩
  case some => exact .failed fault t₁ (fun hfree => by simpa [hprepare] using hfree.made) fun _ => by rw [hprepare]
  simp only
  cases hcreate : createFile cwd trouble (d.pathFor id) t₁ with
  | error fault =>
    refine .failed fault t₁ (fun hfree => ?_) fun _ => by rw [hprepare]
    have hvacant := hfree.vacant
    rw [hprepare] at hvacant
    obtain ⟨t₂, hcreate'⟩ := createFile_ok_iff.2 ⟨hfree.create, hvacant⟩
    exact absurd (hcreate.symm.trans hcreate') nofun
  | ok t₂ =>
    obtain ⟨place, hl, hvacant, hnew⟩ := createFile_alters hcreate
    have hkeeps : Keeps t₁ t₂ := .of_alters hnew (by simp [hvacant]) (by simp [hvacant]) nofun
    have hfilled : (∃ t', fill trouble cwd (d.pathFor id) (Text.encode document) t₂ = .ok t') ↔
        trouble.write = none ∧ trouble.flush = none := fill_ok_iff (hkeeps.locate hl) hnew.self
    rcases fill_alters trouble (Text.encode document) (hkeeps.locate hl) hnew.self with
      ⟨t₃, hfill, hfull⟩ | ⟨fault, t₃, content, hfill, hpart⟩
    · obtain ⟨hwrite, hflush⟩ := hfilled.1 ⟨t₃, hfill⟩
      simp only [hfill]
      have hl' : (d.prepare cwd trouble t).2.locate cwd false (d.pathFor id) = .ok place := by rw [hprepare]; exact hl
      have hvacant' : (d.prepare cwd trouble t).2.at? place = none := by rw [hprepare]; exact hvacant
      have hcreated := (createFile_ok_iff.1 ⟨t₂, hcreate⟩).1
      refine .provided t₃ place ⟨by rw [hprepare], ⟨place, hl', hvacant'⟩, hcreated, hwrite, hflush⟩ hl' hvacant' ?_
      rw [hprepare]
      exact hnew.trans hfull
    · have hgone : Alters place none t₁ (Lease.removeFile { id := id, path := d.pathFor id } cwd t₃) :=
        (hnew.trans hpart).trans (Lease.removeFile_alters
          ((hkeeps.trans (.of_alters hpart (by simp [hnew.self]) (by simp [hnew.self]) nofun)).locate hl) hpart.self)
      simp only [hfill]
      refine .failed fault _ (fun hfree => ?_) fun p => by rw [hprepare]; exact hgone.unchanged hvacant p
      obtain ⟨t₄, hfill'⟩ := hfilled.2 ⟨hfree.write, hfree.flush⟩
      exact absurd (hfill.symm.trans hfill') nofun

/-- What an acquisition may come to. -/
inductive Acquires (d : InputDirectory) (cwd : Place) (id document : String) (t : Tree) :
    Except StoreFault Lease × Tree → Prop where
  /-- It fails, and no file is left of it. -/
  | failed (fault : StoreFault) (t' : Tree) : AddsDirectories t t' → Acquires d cwd id document t (.error fault, t')
  /-- It adds a file where nothing stood. -/
  | provided (t₁ t' : Tree) (place : Place) : isSafeId id = true → AddsDirectories t t₁ →
      t₁.locate cwd false (d.pathFor id) = .ok place → t₁.at? place = none →
      Alters place (some (.file (Text.encode document) Tree.fileMode)) t₁ t' →
      Acquires d cwd id document t (.ok { id := id, path := d.pathFor id }, t')

/-- Every acquisition fails without a trace or adds one new file, whatever the operating system refuses. -/
theorem acquire_cases (d : InputDirectory) (cwd : Place) (trouble : Trouble) (id document : String) (t : Tree) :
    Acquires d cwd id document t (d.acquire cwd trouble id document t) := by
  by_cases hsafe : isSafeId id = true
  · have hprepare := d.prepare_adds cwd trouble t
    have hsettles := d.acquire_settles cwd trouble document t hsafe
    generalize d.acquire cwd trouble id document t = outcome at hsettles ⊢
    cases hsettles with
    | failed fault t' _ hsame => exact .failed _ t' (hprepare.trans fun p => .inl (hsame p))
    | provided t' place _ hl hvacant halters => exact .provided _ t' place hsafe hprepare hl hvacant halters
  · rw [acquire, if_pos (by simp [hsafe])]
    exact .failed _ t (.refl t)

/-- What an acquisition provides is a file with the bytes of the document and nothing else. -/
theorem read_of_acquire {d : InputDirectory} {cwd : Place} {trouble : Trouble} {id document : String} {lease : Lease}
    {t t' : Tree} (h : d.acquire cwd trouble id document t = (.ok lease, t')) :
    t'.read cwd lease.path = .ok (Text.encode document) := by
  have hcases := d.acquire_cases cwd trouble id document t
  rw [h] at hcases
  cases hcases with
  | provided t₁ _ place _ _ hlocated hvacant halters =>
    have hkeeps : Keeps t₁ t' := .of_alters halters (by simp [hvacant]) (by simp [hvacant]) nofun
    exact Tree.read_file (hkeeps.locate hlocated) halters.self

end InputDirectory
end QueryGateway
