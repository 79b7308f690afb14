import QueryGateway.Files.Tree

/-!
# What a path depends on

Where a path leads is decided by the directories and the links on its way. So a path keeps leading where it led while
directories and links stay what they are (`Tree.Keeps`), whatever happens to files meanwhile; and the one name that a
walk may find missing is its last.
-/

namespace QueryGateway
namespace Tree

/-! ## What stands where, after a change -/

/-- The entries of other places stay when the entries of one place are left out. -/
theorem lookup_filter_ne (nodes : List (Place × Node)) (place p : Place) :
    (nodes.filter fun entry => !decide (entry.1 = place)).lookup p = if p = place then none else nodes.lookup p := by
  induction nodes with
  | nil => simp
  | cons entry rest ih =>
    obtain ⟨q, node⟩ := entry
    by_cases hq : q = place
    · rw [List.filter_cons_of_neg (by simp [hq]), ih, List.lookup_cons]
      by_cases hp : p = place
      · rw [if_pos hp, if_pos hp]
      · have hne : (p == q) = false := by simp [hq, hp]
        rw [hne]
    · rw [List.filter_cons_of_pos (by simp [hq]), List.lookup_cons, List.lookup_cons, ih]
      by_cases hp : p = q
      · subst hp; simp [hq]
      · have hne : (p == q) = false := by simp [hp]
        rw [hne]

/-- At the root there is always a directory. -/
@[simp] theorem at?_root (t : Tree) : t.at? [] = some .directory := rfl

/-- What stands where after something was put at a place under the root. -/
theorem at?_put {t : Tree} {place : Place} (h : place ≠ []) (node : Node) (p : Place) :
    (t.put place node).at? p = if p = place then some node else t.at? p := by
  by_cases hp : p = place
  · simp [at?, put, hp, h]
  · have hne : (p == place) = false := by simp [hp]
    simp [at?, put, List.lookup_cons, hne, lookup_filter_ne, hp]

/-- What stands where after a place under the root was emptied. -/
theorem at?_take {t : Tree} {place : Place} (h : place ≠ []) (p : Place) :
    (t.take place).at? p = if p = place then none else t.at? p := by
  by_cases hp : p = place
  · simp [at?, take, lookup_filter_ne, hp, h]
  · simp [at?, take, lookup_filter_ne, hp]

/-- Two trees that agree everywhere but at one place, and what stands there in the second. -/
def Alters (place : Place) (node? : Option Node) (t t' : Tree) : Prop :=
  ∀ p, t'.at? p = if p = place then node? else t.at? p

/-- A place with no directory is not the root. -/
theorem ne_root {t : Tree} {place : Place} (h : t.at? place ≠ some .directory) : place ≠ [] := by
  rintro rfl
  exact h (at?_root t)

namespace Alters

theorem put {t : Tree} {place : Place} (h : t.at? place ≠ some .directory) (node : Node) :
    Alters place (some node) t (t.put place node) :=
  at?_put (ne_root h) node

theorem take {t : Tree} {place : Place} (h : t.at? place ≠ some .directory) : Alters place none t (t.take place) :=
  at?_take (ne_root h)

theorem self {place : Place} {node? : Option Node} {t t' : Tree} (h : Alters place node? t t') :
    t'.at? place = node? := by
  rw [h, if_pos rfl]

theorem other {place p : Place} {node? : Option Node} {t t' : Tree} (h : Alters place node? t t') (hp : p ≠ place) :
    t'.at? p = t.at? p := by
  rw [h, if_neg hp]

/-- Of two alterations of one place only the second is seen. -/
theorem trans {place : Place} {node? node?' : Option Node} {t₁ t₂ t₃ : Tree} (h : Alters place node? t₁ t₂)
    (h' : Alters place node?' t₂ t₃) : Alters place node?' t₁ t₃ := by
  intro p
  by_cases hp : p = place
  · rw [h', if_pos hp, if_pos hp]
  · rw [h'.other hp, h.other hp, if_neg hp]

/-- An alteration to what stood there before changes nothing. -/
theorem unchanged {place : Place} {node? : Option Node} {t t' : Tree} (h : Alters place node? t t')
    (hold : t.at? place = node?) (p : Place) : t'.at? p = t.at? p := by
  by_cases hp : p = place
  · rw [hp, h.self, hold]
  · exact h.other hp

end Alters

/-! ## The last name of a walk -/

/-- A walk that may end only here has come to its last name. -/
theorem last_of_ok {rest : List Path.Component} {there place : Place} {e : Errno}
    (h : (if rest = [] then .ok there else .error e : Except Errno Place) = .ok place) : rest = [] ∧ there = place := by
  split at h
  case isTrue hrest => exact ⟨hrest, Except.ok.inj h⟩
  case isFalse => nomatch h

/-- A walk ends at its last name unless a link stands there. -/
theorem walkFrom_last {t : Tree} {follow : Bool} {beyond : Place → List Path.Component → Except Errno Place}
    {part : Bytes} {here : Place} (hlong : ¬ maxName < part.length)
    (hlink : ∀ target, t.at? (part :: here) ≠ some (.link target)) :
    t.walkFrom follow beyond here [.name part] = .ok (part :: here) := by
  rw [walkFrom, if_neg hlong]
  simp only
  split
  · rename_i target hl; exact absurd hl (hlink target)
  · rfl
  · rfl
  · rfl

/-! ## Trees with the same ways -/

/-- A tree keeps the ways of another: its directories are still directories, and the links are the same. -/
structure Keeps (t t' : Tree) : Prop where
  directory : ∀ {p}, t.at? p = some .directory → t'.at? p = some .directory
  link : ∀ {p target}, t'.at? p = some (.link target) ↔ t.at? p = some (.link target)

namespace Keeps

theorem refl (t : Tree) : Keeps t t := ⟨id, Iff.rfl⟩

theorem trans {t₁ t₂ t₃ : Tree} (h : Keeps t₁ t₂) (h' : Keeps t₂ t₃) : Keeps t₁ t₃ :=
  ⟨fun hp => h'.directory (h.directory hp), h'.link.trans h.link⟩

/-- An alteration keeps the ways where neither a directory nor a link stood and no link is put. -/
theorem of_alters {t t' : Tree} {place : Place} {node? : Option Node} (h : Alters place node? t t')
    (hdirectory : t.at? place ≠ some .directory) (hlink : ∀ target, t.at? place ≠ some (.link target))
    (hnew : ∀ target, node? ≠ some (.link target)) : Keeps t t' := by
  refine ⟨?_, ?_⟩
  · intro p hp
    have hne : p ≠ place := by rintro rfl; exact hdirectory hp
    rw [h.other hne, hp]
  · intro p target
    by_cases hp : p = place
    · rw [hp, h.self]
      exact ⟨fun hl => absurd hl (hnew target), fun hl => absurd hl (hlink target)⟩
    · rw [h.other hp]

/-- One stretch of a walk between links comes to the same place, if the walk beyond a link does. A link at the very end
may now be followed where it was not, if the walk ended at none. What is neither a directory nor a link must be the last
name, and no link has come to stand there since. -/
theorem walkFrom {t t' : Tree} (h : Keeps t t') {follow follow' : Bool} {place : Place}
    (hfollow : follow' = follow ∨ follow' = true ∧ ∀ target, t.at? place ≠ some (.link target))
    {beyond beyond' : Place → List Path.Component → Except Errno Place}
    (hbeyond : ∀ {here rest}, beyond here rest = .ok place → beyond' here rest = .ok place)
    {steps : List Path.Component} : ∀ {here : Place},
      t.walkFrom follow beyond here steps = .ok place → t'.walkFrom follow' beyond' here steps = .ok place := by
  induction steps with
  | nil => intro here hw; simpa only [Tree.walkFrom] using hw
  | cons step rest ih =>
    intro here hw
    cases step with
    | root => simp only [Tree.walkFrom] at hw ⊢; exact ih hw
    | current => simp only [Tree.walkFrom] at hw ⊢; exact ih hw
    | parent => simp only [Tree.walkFrom] at hw ⊢; exact ih hw
    | name part =>
      by_cases hlong : maxName < part.length
      · simp only [Tree.walkFrom, if_pos hlong] at hw
        nomatch hw
      simp only [Tree.walkFrom, if_neg hlong] at hw
      split at hw
      case h_1 target hlink =>
        rw [Tree.walkFrom, if_neg hlong]
        simp only [h.link.2 hlink]
        split at hw
        case isTrue hlast =>
          rcases hfollow with rfl | ⟨_, hnolink⟩
          · rw [if_pos hlast, ← hw]
          · obtain rfl := Except.ok.inj hw
            exact absurd hlink (hnolink target)
        case isFalse hlast =>
          have hlast' : ¬(rest = [] ∧ (!follow') = true) := by
            rcases hfollow with rfl | ⟨rfl, _⟩
            · exact hlast
            · simp
          rw [if_neg hlast']
          split at hw
          case isTrue => nomatch hw
          case isFalse hempty => rw [if_neg hempty]; exact hbeyond hw
      case h_2 hdir =>
        rw [Tree.walkFrom, if_neg hlong]
        simp only [h.directory hdir]
        exact ih hw
      case h_3 node hlink _ hnode =>
        obtain ⟨rfl, rfl⟩ := last_of_ok hw
        exact walkFrom_last hlong fun target hl => hlink target (Option.some.inj (hnode.symm.trans (h.link.1 hl)))
      case h_4 hnone =>
        obtain ⟨rfl, rfl⟩ := last_of_ok hw
        exact walkFrom_last hlong fun target hl => nomatch hnone.symm.trans (h.link.1 hl)

/-- A walk comes to the same place. -/
theorem walk {t t' : Tree} (h : Keeps t t') {follow follow' : Bool} {place : Place}
    (hfollow : follow' = follow ∨ follow' = true ∧ ∀ target, t.at? place ≠ some (.link target)) (links : Nat) :
    ∀ {here : Place} {steps : List Path.Component}, t.walk follow links here steps = .ok place →
      t'.walk follow' links here steps = .ok place := by
  induction links with
  | zero =>
    intro here steps hw
    refine h.walkFrom hfollow ?_ hw
    intro _ _ hb
    nomatch hb
  | succ links ih => exact h.walkFrom hfollow ih

/-- A path leads to the same place, also when a link at the very end is now followed, if it led to none. -/
theorem locate_of_follow {t t' : Tree} (h : Keeps t t') {follow follow' : Bool} {cwd place : Place} {p : Path}
    (hfollow : follow' = follow ∨ follow' = true ∧ ∀ target, t.at? place ≠ some (.link target))
    (hl : t.locate cwd follow p = .ok place) : t'.locate cwd follow' p = .ok place := by
  unfold Tree.locate at hl ⊢
  by_cases hzero : p.bytes.contains 0
  · rw [if_pos hzero] at hl; nomatch hl
  by_cases hempty : p.bytes = []
  · rw [if_neg hzero, if_pos hempty] at hl; nomatch hl
  by_cases hlong : maxPath ≤ p.bytes.length
  · rw [if_neg hzero, if_neg hempty, if_pos hlong] at hl; nomatch hl
  rw [if_neg hzero, if_neg hempty, if_neg hlong] at hl ⊢
  cases hw : t.walk follow maxLinks cwd (steps p) with
  | error e => rw [hw] at hl; nomatch hl
  | ok q =>
    rw [hw] at hl
    obtain rfl := Except.ok.inj hl
    rw [h.walk hfollow _ hw]
    rfl

/-- A path leads to the same place. -/
theorem locate {t t' : Tree} (h : Keeps t t') {cwd : Place} {follow : Bool} {p : Path} {place : Place}
    (hl : t.locate cwd follow p = .ok place) : t'.locate cwd follow p = .ok place :=
  h.locate_of_follow (.inl rfl) hl

end Keeps

/-- A path that leads to no link when the last link is left alone leads to the same place when links are followed. -/
theorem locate_follow {t : Tree} {cwd : Place} {p : Path} {place : Place}
    (hl : t.locate cwd false p = .ok place) (hlink : ∀ target, t.at? place ≠ some (.link target)) :
    t.locate cwd true p = .ok place :=
  (Keeps.refl t).locate_of_follow (.inr ⟨rfl, hlink⟩) hl

end Tree
end QueryGateway
