import QueryGateway.Proofs.InputDirectory
import Mathlib.Logic.Function.Basic

/-!
# Who holds which file

Many holders share one directory of inputs, each with a lease of its own. `Kept` says that every lease leads to a file
with its holder's document, that no two lead to the same place, and that nothing else was added but directories. It
holds through everything a holder may do with the directory (`Handles`): an acquisition that fails, one that succeeds,
and the end of a hold.
-/

namespace QueryGateway

open QueryGateway.Tree (Alters AddsDirectories Gains Keeps)

/-- An input in somebody's hands: the document, the lease, and the place where its file stands. -/
structure Holding where
  document : String
  lease : Lease
  place : Place

namespace Holding

/-- An input as its holder has it. -/
def input (x : Holding) : String × Lease := (x.document, x.lease)

/-- The file of an input. -/
def file (x : Holding) : Node := .file (Text.encode x.document) Tree.fileMode

/-- The file of an input stands where its lease leads. -/
structure Stands (x : Holding) (cwd : Place) (t : Tree) : Prop where
  closed : x.lease.closed = false
  located : t.locate cwd false x.lease.path = .ok x.place
  there : t.at? x.place = some x.file

/-- It goes on standing there while the ways are kept and nobody touches the place. -/
theorem Stands.keeps {x : Holding} {cwd : Place} {t t' : Tree} (h : x.Stands cwd t) (hkeeps : Keeps t t')
    (hplace : t'.at? x.place = some x.file) : x.Stands cwd t' :=
  ⟨h.closed, hkeeps.locate h.located, hplace⟩

/-- Where a file stands, neither a directory nor a link does. -/
theorem Stands.loose {x : Holding} {cwd : Place} {t : Tree} (h : x.Stands cwd t) :
    t.at? x.place ≠ some .directory ∧ ∀ target, t.at? x.place ≠ some (.link target) := by
  rw [h.there]
  exact ⟨nofun, nofun⟩

end Holding

/-- The files are those that were there at first and those of the inputs in somebody's hands. -/
structure Kept (cwd : Place) (initial now : Tree) (held : Nat → Option Holding) : Prop where
  /-- The file of every input stands, and it was not there at first. -/
  stands : ∀ {i x}, held i = some x → x.Stands cwd now ∧ initial.at? x.place = none
  /-- No two inputs have the same place. -/
  apart : ∀ {i j x y}, held i = some x → held j = some y → x.place = y.place → i = j
  /-- Elsewhere there is what was there at first, or a directory that was made since. -/
  elsewhere : ∀ {p}, (∀ i x, held i = some x → x.place ≠ p) →
    Gains (initial.at? p) (now.at? p)

namespace Kept

variable {cwd : Place} {initial now now' : Tree} {held : Nat → Option Holding}

/-- At first nobody holds anything. -/
theorem start : Kept cwd initial initial fun _ => none :=
  ⟨nofun, nofun, fun _ => .inl rfl⟩

/-- Where nothing stands, nothing stood at first. -/
theorem vacant (h : Kept cwd initial now held) {p : Place} (hp : now.at? p = none) : initial.at? p = none := by
  refine (h.elsewhere ?_).vacant hp
  rintro i x hx rfl
  rw [(h.stands hx).1.there] at hp
  nomatch hp

/-- What stood somewhere at first stands there still. -/
theorem at?_of_initial (h : Kept cwd initial now held) {p : Place} {node : Node} (hp : initial.at? p = some node) :
    now.at? p = some node := by
  refine (h.elsewhere ?_).stays hp
  rintro i x hx rfl
  rw [(h.stands hx).2] at hp
  nomatch hp

/-- Beside directories there is what was there at first, and the files of the inputs. -/
theorem at?_iff (h : Kept cwd initial now held) {p : Place} {node : Node} (hnode : node ≠ .directory) :
    now.at? p = some node ↔
      initial.at? p = some node ∨ ∃ i x, held i = some x ∧ x.place = p ∧ node = x.file := by
  constructor
  · intro hp
    by_cases hhere : ∃ i x, held i = some x ∧ x.place = p
    · obtain ⟨i, x, hx, rfl⟩ := hhere
      rw [(h.stands hx).1.there] at hp
      exact .inr ⟨i, x, hx, rfl, (Option.some.inj hp).symm⟩
    · exact .inl ((h.elsewhere fun i x hx hxp => hhere ⟨i, x, hx, hxp⟩).was hnode hp)
  · rintro (hp | ⟨i, x, hx, rfl, rfl⟩)
    · exact h.at?_of_initial hp
    · exact (h.stands hx).1.there

/-- Making directories disturbs nobody. -/
theorem addsDirectories (h : Kept cwd initial now held) (hadds : AddsDirectories now now') :
    Kept cwd initial now' held := by
  refine ⟨?_, h.apart, fun hp => (h.elsewhere hp).trans (hadds _)⟩
  intro i x hx
  obtain ⟨hstands, hnew⟩ := h.stands hx
  exact ⟨hstands.keeps hadds.keeps ((hadds _).stays hstands.there), hnew⟩

/-- What is held after one holder's hand has changed. -/
theorem update_eq_some_iff {i j : Nat} {x? : Option Holding} {y : Holding} :
    Function.update held i x? j = some y ↔ (j = i ∧ x? = some y) ∨ (j ≠ i ∧ held j = some y) := by
  by_cases hj : j = i
  · rw [hj, Function.update_self]
    simp
  · rw [Function.update_of_ne hj]
    simp [hj]

/-- A file that is put where nothing stood disturbs nobody. -/
theorem put (h : Kept cwd initial now held) {i : Nat} (hi : held i = none) {x : Holding}
    (hclosed : x.lease.closed = false) (hlocated : now.locate cwd false x.lease.path = .ok x.place)
    (hvacant : now.at? x.place = none) (halters : Alters x.place (some x.file) now now') :
    Kept cwd initial now' (Function.update held i (some x)) := by
  have hkeeps : Keeps now now' := .of_alters halters (by simp [hvacant]) (by simp [hvacant]) (by simp [Holding.file])
  have hother : ∀ {j y}, held j = some y → y.place ≠ x.place := by
    intro j y hy heq
    have hthere := (h.stands hy).1.there
    rw [heq, hvacant] at hthere
    nomatch hthere
  refine ⟨?_, ?_, ?_⟩
  · intro j y hy
    rcases update_eq_some_iff.1 hy with ⟨_, hxy⟩ | ⟨_, hy⟩
    · obtain rfl := Option.some.inj hxy
      exact ⟨⟨hclosed, hkeeps.locate hlocated, halters.self⟩, h.vacant hvacant⟩
    · obtain ⟨hstands, hnew⟩ := h.stands hy
      exact ⟨hstands.keeps hkeeps ((halters.other (hother hy)).trans hstands.there), hnew⟩
  · intro j k y z hy hz heq
    rcases update_eq_some_iff.1 hy with ⟨hj, hxy⟩ | ⟨_, hy⟩ <;>
      rcases update_eq_some_iff.1 hz with ⟨hk, hxz⟩ | ⟨_, hz⟩
    · rw [hj, hk]
    · obtain rfl := Option.some.inj hxy
      exact absurd heq.symm (hother hz)
    · obtain rfl := Option.some.inj hxz
      exact absurd heq (hother hy)
    · exact h.apart hy hz heq
  · intro p hp
    rw [halters.other (Ne.symm (hp i x (update_eq_some_iff.2 (.inl ⟨rfl, rfl⟩))))]
    refine h.elsewhere fun j y hy => hp j y (update_eq_some_iff.2 (.inr ⟨?_, hy⟩))
    rintro rfl
    rw [hi] at hy
    nomatch hy

/-- A file that its holder takes away disturbs nobody else. -/
theorem take (h : Kept cwd initial now held) {i : Nat} {x : Holding} (hi : held i = some x)
    (halters : Alters x.place none now now') : Kept cwd initial now' (Function.update held i none) := by
  obtain ⟨hstands, hnew⟩ := h.stands hi
  have hkeeps : Keeps now now' := .of_alters halters hstands.loose.1 hstands.loose.2 nofun
  have hleft : ∀ {j y}, Function.update held i none j = some y → held j = some y ∧ y.place ≠ x.place := by
    intro j y hy
    rcases update_eq_some_iff.1 hy with ⟨_, hnone⟩ | ⟨hj, hy⟩
    · nomatch hnone
    · exact ⟨hy, fun heq => hj (h.apart hy hi heq)⟩
  refine ⟨?_, ?_, ?_⟩
  · intro j y hy
    obtain ⟨hy, hne⟩ := hleft hy
    obtain ⟨hstands', hnew'⟩ := h.stands hy
    exact ⟨hstands'.keeps hkeeps ((halters.other hne).trans hstands'.there), hnew'⟩
  · intro j k y z hy hz
    exact h.apart (hleft hy).1 (hleft hz).1
  · intro p hp
    by_cases hpx : p = x.place
    · rw [hpx, halters.self, hnew]
      exact .inl rfl
    · rw [halters.other hpx]
      refine h.elsewhere fun j y hy => ?_
      by_cases hj : j = i
      · rw [hj, hi] at hy
        obtain rfl := Option.some.inj hy
        exact Ne.symm hpx
      · exact hp j y (update_eq_some_iff.2 (.inr ⟨hj, hy⟩))

end Kept

/-- What one act of a holder may do to the files, and what it holds before and after. -/
inductive Handles (d : InputDirectory) (cwd : Place) (t : Tree) :
    Option (String × Lease) → Tree → Option (String × Lease) → Prop where
  /-- It leaves the files alone, and directories are made at most. -/
  | untouched (input? : Option (String × Lease)) (t' : Tree) : AddsDirectories t t' → Handles d cwd t input? t' input?
  /-- It acquires an input. -/
  | acquired (id document : String) (lease : Lease) (t' : Tree) :
      InputDirectory.Acquires d cwd id document t (.ok lease, t') → Handles d cwd t none t' (some (document, lease))
  /-- It releases its input. -/
  | released (document : String) (lease : Lease) :
      Handles d cwd t (some (document, lease)) (InputDirectory.release cwd lease t).2 none
  /-- It drops its input. -/
  | dropped (document : String) (lease : Lease) : Handles d cwd t (some (document, lease)) (lease.drop cwd t) none

/-- Whatever one holder does, everybody's files are kept. -/
theorem Kept.handles {d : InputDirectory} {cwd : Place} {initial now now' : Tree} {held : Nat → Option Holding}
    (h : Kept cwd initial now held) (i : Nat) {input? input?' : Option (String × Lease)}
    (hi : (held i).map Holding.input = input?) (hhandles : Handles d cwd now input? now' input?') :
    ∃ x?, Kept cwd initial now' (Function.update held i x?) ∧ x?.map Holding.input = input?' := by
  have hremoved : ∀ {document lease}, (held i).map Holding.input = some (document, lease) →
      lease.closed = false ∧ Kept cwd initial (lease.removeFile cwd now) (Function.update held i none) := by
    intro document lease hi
    obtain ⟨x, hx, hinput⟩ := Option.map_eq_some_iff.1 hi
    obtain ⟨rfl, rfl⟩ := Prod.mk.inj hinput
    have hstands := (h.stands hx).1
    exact ⟨hstands.closed, h.take hx (Lease.removeFile_alters hstands.located hstands.there)⟩
  cases hhandles with
  | untouched _ _ hadds =>
    refine ⟨held i, ?_, hi⟩
    rw [Function.update_eq_self]
    exact h.addsDirectories hadds
  | acquired id document lease _ hacquires =>
    cases hacquires with
    | provided t₁ _ place _ hadds hlocated hvacant halters =>
      have hput := (h.addsDirectories hadds).put (x := ⟨document, { id := id, path := d.pathFor id }, place⟩)
        (Option.map_eq_none_iff.1 hi) rfl hlocated hvacant halters
      exact ⟨_, hput, rfl⟩
  | released document lease => exact ⟨none, (hremoved hi).2, rfl⟩
  | dropped document lease =>
    obtain ⟨hclosed, hkept⟩ := hremoved hi
    refine ⟨none, ?_, rfl⟩
    rwa [Lease.drop, if_neg (by simp [hclosed])]

end QueryGateway
