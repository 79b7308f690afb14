import QueryGateway.Input.Directory
import QueryGateway.Proofs.StrictDecoding

/-!
# Where a name in a directory leads

However the way to a directory goes, a path that ends in a name leads to a place of that name right in the directory
that the rest of the path leads to, as long as a link at its very end is left alone (`Tree.above_of_locate`). So requests
with different names never share a path nor a place for their files (`InputDirectory.pathFor_injective`,
`InputDirectory.above_of_locate`, `InputDirectory.encode_fileName_injective`).
-/

namespace QueryGateway

/-! ## Slashes -/

/-- Only a slash has the byte of one: the bytes of a character that takes several are 128 or more. -/
theorem Text.slash_mem_utf8EncodeChar {c : Char} (h : Path.slash ∈ String.utf8EncodeChar c) : c = '/' := by
  have hc : Char.ofNat c.val.toNat = c := Char.ofNat_toNat c
  unfold String.utf8EncodeChar at h
  simp only at h
  generalize c.val.toNat = v at h hc
  split at h
  case isTrue hsmall =>
    simp only [List.mem_singleton, Path.slash, ← UInt8.toNat_inj, UInt8.toNat_ofNat', UInt8.reduceToNat] at h
    have hv : v = 0x2F := by omega
    rw [← hc, hv]
  all_goals
    repeat' split at h
    all_goals
      simp only [List.mem_cons, List.not_mem_nil, or_false, Path.slash, ← UInt8.toNat_inj, UInt8.toNat_ofNat',
        UInt8.reduceToNat] at h
      omega

theorem Text.slash_mem_encode {s : String} (h : Path.slash ∈ Text.encode s) : '/' ∈ s.toList := by
  obtain ⟨c, hc, hslash⟩ := List.mem_flatMap.1 h
  rwa [← slash_mem_utf8EncodeChar hslash]

namespace Path

/-- One more byte begins a new stretch or is the first of the stretch that follows. -/
theorem stretches_cons {b : UInt8} {rest part : Bytes} {parts : List Bytes} (h : stretches rest = part :: parts) :
    stretches (b :: rest) = if b = slash then [] :: part :: parts else (b :: part) :: parts := by
  rw [stretches, h]

theorem exists_stretches (bytes : Bytes) : ∃ part parts, stretches bytes = part :: parts := by
  induction bytes with
  | nil => exact ⟨_, _, rfl⟩
  | cons b rest ih =>
    obtain ⟨part, parts, h⟩ := ih
    rw [stretches_cons h]
    split <;> exact ⟨_, _, rfl⟩

/-- What stands before a slash and what stands behind it are cut apart. -/
theorem stretches_append (front back : Bytes) :
    stretches (front ++ slash :: back) = stretches front ++ stretches back := by
  induction front with
  | nil =>
    obtain ⟨part, parts, hback⟩ := exists_stretches back
    rw [List.nil_append, stretches_cons hback, if_pos rfl, hback]
    rfl
  | cons b front ih =>
    obtain ⟨part, parts, hfront⟩ := exists_stretches front
    rw [hfront, List.cons_append] at ih
    rw [List.cons_append, stretches_cons ih, stretches_cons hfront]
    split <;> rfl

/-- Without a slash there is one stretch. -/
theorem stretches_of_not_mem {bytes : Bytes} (h : slash ∉ bytes) : stretches bytes = [bytes] := by
  induction bytes with
  | nil => rfl
  | cons b rest ih =>
    rw [List.mem_cons, not_or] at h
    rw [stretches_cons (ih h.2), if_neg (Ne.symm h.1)]

/-- Bytes that name something in a directory: there are some, no slash among them, and they are neither of the two
dotted stretches. -/
structure Names (name : Bytes) : Prop where
  ne_nil : name ≠ []
  slash : slash ∉ name
  component : component? name = some (.name name)

/-- A name does not start at the root. -/
theorem Names.relative {name : Bytes} (h : Names name) : (⟨name⟩ : Path).isAbsolute = false := by
  rw [isAbsolute, decide_eq_false_iff_not]
  exact fun hhead => h.slash (List.mem_of_mem_head? hhead)

/-- What is put between a path and a relative one that makes it longer. -/
def between (p : Path) : Bytes :=
  if p.bytes = [] ∨ p.bytes.getLast? = some slash then [] else [slash]

/-- A path made longer by a relative one starts with its own bytes and ends with those of the other. -/
theorem join_bytes (p : Path) {q : Path} (h : q.isAbsolute = false) :
    (p.join q).bytes = p.bytes ++ p.between ++ q.bytes := by
  unfold join between
  rw [if_neg (by simp [h])]
  split <;> simp

end Path

namespace Tree

variable {name : Bytes}

/-! ## The last name of a path -/

/-- The step that a stretch of a path is, if it is one. -/
def step? (part : Bytes) : Option Path.Component :=
  if part = [Path.dot] then some .current else Path.component? part

/-- The step that a path begins with if it begins with a slash. -/
def rooted (bytes : Bytes) : List Path.Component :=
  if bytes.head? = some Path.slash then [.root] else []

/-- Whether a path ends in a slash. -/
def closing (bytes : Bytes) : List Path.Component :=
  if bytes.getLast? = some Path.slash then [.current] else []

/-- The steps of a path: the root, its stretches, and a directory asked for. -/
theorem steps_eq (bytes : Bytes) :
    steps ⟨bytes⟩ = rooted bytes ++ (Path.stretches bytes).filterMap step? ++ closing bytes := by
  have hclosed : steps ⟨bytes⟩ = rooted bytes ++ ((Path.stretches bytes).filterMap step? ++ closing bytes) := by
    unfold steps rooted closing step? Path.isAbsolute
    by_cases hroot : bytes.head? = some Path.slash <;> by_cases hclose : bytes.getLast? = some Path.slash <;>
      simp [hroot, hclose]
  rw [hclosed, List.append_assoc]

/-- What comes behind a slash decides neither where a path begins nor the stretches in front of the slash. -/
theorem steps_slash (fore : Bytes) {back : Bytes} (h : Path.slash ∉ back) :
    steps ⟨fore ++ Path.slash :: back⟩ = rooted (fore ++ [Path.slash]) ++ (Path.stretches fore).filterMap step? ++
      ([back].filterMap step? ++ if back = [] then [.current] else []) := by
  have hroot : rooted (fore ++ Path.slash :: back) = rooted (fore ++ [Path.slash]) := by
    cases fore <;> rfl
  have hclose : closing (fore ++ Path.slash :: back) = if back = [] then [.current] else [] := by
    unfold closing
    by_cases hback : back = []
    · simp [hback]
    · rw [List.getLast?_append, List.getLast?_cons_of_ne_nil hback, Option.or_of_isSome (by simp [hback]), if_neg hback,
        if_neg fun hlast => h (List.mem_of_getLast? hlast)]
  rw [steps_eq, hroot, hclose, Path.stretches_append, Path.stretches_of_not_mem h, List.filterMap_append]
  simp only [List.append_assoc]

/-- The steps behind the last name of a path: none, or one that asks for a directory. -/
def Closes (more : List Path.Component) : Prop :=
  more = [] ∨ more = [.current]

/-- A path that is made longer by a name has its own steps, if it has any, and then that name. -/
theorem steps_join (p : Path) (h : Path.Names name) : ∃ front more,
    Closes more ∧ steps p = front ++ more ∧ steps (p.join ⟨name⟩) = front ++ [.name name] := by
  have hname : step? name = some (.name name) := by
    rw [step?, if_neg, h.component]
    rintro rfl
    cases h.component
  have hbehind : ∀ fore, steps ⟨fore ++ Path.slash :: name⟩ =
      rooted (fore ++ [Path.slash]) ++ (Path.stretches fore).filterMap step? ++ [.name name] := by
    intro fore
    rw [steps_slash fore h.slash, if_neg h.ne_nil, List.filterMap_cons_some hname]
    rfl
  obtain ⟨bytes⟩ := p
  rw [Path.join, if_neg (by simp [h.relative])]
  split
  case isTrue hend =>
    rcases hend with rfl | hlast
    · refine ⟨[], [], .inl rfl, rfl, ?_⟩
      have hroot : rooted name = [] := if_neg fun hhead => h.slash (List.mem_of_mem_head? hhead)
      have hclose : closing name = [] := if_neg fun hlast => h.slash (List.mem_of_getLast? hlast)
      rw [List.nil_append, steps_eq, hroot, hclose, Path.stretches_of_not_mem h.slash, List.filterMap_cons_some hname]
      rfl
    · obtain ⟨fore, rfl⟩ := List.getLast?_eq_some_iff.1 hlast
      refine ⟨rooted (fore ++ [Path.slash]) ++ (Path.stretches fore).filterMap step?, [.current], .inr rfl, ?_, ?_⟩
      · rw [steps_slash fore List.not_mem_nil]
        rfl
      · rw [← hbehind, List.append_assoc]
        rfl
  case isFalse hend =>
    rw [not_or] at hend
    refine ⟨_, [], .inl rfl, ?_, hbehind bytes⟩
    have hroot : rooted (bytes ++ [Path.slash]) = rooted bytes := by
      unfold rooted
      rw [List.head?_append, Option.or_of_isSome (by simpa using hend.1)]
    rw [hroot, steps_eq, closing, if_neg hend.2]

/-- A walk that ends in a name comes to a place of that name, in the directory that the walk without the name comes to,
if it does so beyond a link. -/
theorem above_of_walkFrom {t : Tree} {beyond beyond' : Place → List Path.Component → Except Errno Place} {place : Place}
    {more : List Path.Component} (hmore : Closes more)
    (hbeyond : ∀ {here front}, beyond here (front ++ [.name name]) = .ok place →
      ∃ above, place = name :: above ∧ beyond' here (front ++ more) = .ok above)
    {front : List Path.Component} : ∀ {here : Place},
      t.walkFrom false beyond here (front ++ [.name name]) = .ok place →
      ∃ above, place = name :: above ∧ t.walkFrom true beyond' here (front ++ more) = .ok above := by
  induction front with
  | nil =>
    intro here h
    refine ⟨here, ?_, by rcases hmore with rfl | rfl <;> rfl⟩
    rw [List.nil_append, walkFrom] at h
    split at h
    · cases h
    simp only [Bool.not_false, and_self, if_true] at h
    split at h
    · cases h; rfl
    · rw [walkFrom] at h; cases h; rfl
    · cases h; rfl
    · cases h; rfl
  | cons step front ih =>
    intro here h
    have hlonger : front ++ [Path.Component.name name] ≠ [] := by simp
    cases step with
    | root => exact ih (by simpa only [List.cons_append, walkFrom] using h)
    | current => exact ih (by simpa only [List.cons_append, walkFrom] using h)
    | parent => exact ih (by simpa only [List.cons_append, walkFrom] using h)
    | name part =>
      rw [List.cons_append, walkFrom] at h ⊢
      by_cases hlong : maxName < part.length
      · rw [if_pos hlong] at h
        cases h
      rw [if_neg hlong] at h ⊢
      simp only [hlonger, false_and, if_false] at h
      split at h
      case h_1 target hlink =>
        simp only [hlink, Bool.not_true, Bool.false_eq_true, and_false, if_false]
        split at h
        · cases h
        · next hempty =>
          rw [if_neg hempty, ← List.append_assoc]
          rw [← List.append_assoc] at h
          exact hbeyond h
      case h_2 hdirectory =>
        simp only [hdirectory]
        exact ih h
      case h_3 => cases h
      case h_4 => cases h

/-- A walk that ends in a name comes to a place of that name, in the directory that the walk without the name comes
to. -/
theorem above_of_walk {t : Tree} {place : Place} {more : List Path.Component} (hmore : Closes more) (links : Nat) :
    ∀ {here : Place} {front : List Path.Component}, t.walk false links here (front ++ [.name name]) = .ok place →
      ∃ above, place = name :: above ∧ t.walk true links here (front ++ more) = .ok above := by
  induction links with
  | zero =>
    refine above_of_walkFrom hmore ?_
    intro _ _ hbeyond
    cases hbeyond
  | succ links ih => exact above_of_walkFrom hmore ih

/-- Where a path leads as a directory: links are followed, and no path at all is the working directory. -/
def Lies (t : Tree) (cwd : Place) (p : Path) (place : Place) : Prop :=
  if p.bytes = [] then place = cwd else t.locate cwd true p = .ok place

/-- A path that ends in a name leads to a place of that name, in the directory that the rest of the path leads to, if a
link at its very end is left alone. -/
theorem above_of_locate {t : Tree} {cwd place : Place} {p : Path} (hname : Path.Names name)
    (h : t.locate cwd false (p.join ⟨name⟩) = .ok place) : ∃ above, place = name :: above ∧ t.Lies cwd p above := by
  obtain ⟨front, more, hmore, hsteps, hjoined⟩ := steps_join p hname
  have hbytes := p.join_bytes hname.relative
  unfold locate at h
  by_cases hzero : (p.join ⟨name⟩).bytes.contains 0
  · rw [if_pos hzero] at h; cases h
  by_cases hlong : maxPath ≤ (p.join ⟨name⟩).bytes.length
  · rw [if_neg hzero, if_pos hlong] at h
    split at h <;> cases h
  rw [if_neg hzero, if_neg hlong, hjoined] at h
  split at h
  · cases h
  cases hwalk : t.walk false maxLinks cwd (front ++ [.name name]) with
  | error e => rw [hwalk] at h; cases h
  | ok place' =>
    rw [hwalk] at h
    cases h
    obtain ⟨above, rfl, habove⟩ := above_of_walk hmore maxLinks hwalk
    refine ⟨above, rfl, ?_⟩
    rw [← hsteps] at habove
    unfold Lies
    split
    case isTrue hnil =>
      obtain ⟨bytes⟩ := p
      subst hnil
      exact (Except.ok.inj habove).symm
    case isFalse hne =>
      rw [hbytes] at hzero hlong
      have hzero' : ¬ p.bytes.contains 0 := by
        intro hmem
        exact hzero (by simp_all)
      have hlong' : ¬ maxPath ≤ p.bytes.length := by
        simp only [List.length_append] at hlong
        omega
      rw [locate, if_neg hzero', if_neg hne, if_neg hlong', habove]
      rfl

end Tree

namespace InputDirectory

variable {id id' : String}

/-- The name of a request's file, if the request's own is safe, is a name. -/
theorem names_fileName (h : isSafeId id = true) : Path.Names (Text.encode (fileName id)) := by
  have hprefix : ∃ rest, Text.encode (fileName id) = 0x69 :: rest := by
    rw [fileName, Text.encode_append, Text.encode_append]
    exact ⟨_, rfl⟩
  refine ⟨?_, ?_, ?_⟩
  · obtain ⟨rest, hrest⟩ := hprefix
    simp [hrest]
  · intro hslash
    have hmem := Text.slash_mem_encode hslash
    simp only [fileName, String.toList_append, List.mem_append] at hmem
    rcases hmem with (hmem | hmem) | hmem
    · simp at hmem
    · rw [isSafeId, Bool.and_eq_true, List.all_eq_true] at h
      exact absurd (h.2 _ hmem) (by decide)
    · simp at hmem
  · obtain ⟨rest, hrest⟩ := hprefix
    rw [hrest, Path.component?, if_neg (by simp [Path.dot]), if_neg (by simp [Path.dot])]

/-- The file of a request stands in the directory that the path of the directory leads to, under the request's name. -/
theorem above_of_locate {d : InputDirectory} {t : Tree} {cwd place : Place} (hsafe : isSafeId id = true)
    (h : t.locate cwd false (d.pathFor id) = .ok place) :
    ∃ above, place = Text.encode (fileName id) :: above ∧ t.Lies cwd d.path above :=
  Tree.above_of_locate (names_fileName hsafe) h

/-- Wherever the directory lies, the file of a request stands at a place of its name. -/
theorem head?_of_locate {d : InputDirectory} {t : Tree} {cwd place : Place} (hsafe : isSafeId id = true)
    (h : t.locate cwd false (d.pathFor id) = .ok place) : place.head? = some (Text.encode (fileName id)) := by
  obtain ⟨above, rfl, -⟩ := above_of_locate hsafe h
  rfl

/-- Different requests have files of different names. -/
theorem encode_fileName_injective (h : Text.encode (fileName id) = Text.encode (fileName id')) : id = id' := by
  have hname := congrArg String.toList (Text.encode_injective h)
  simp only [fileName, String.toList_append] at hname
  exact String.toList_inj.1 (List.append_cancel_left (List.append_cancel_right hname))

/-- Different requests have different paths, safe or not. -/
theorem pathFor_injective (d : InputDirectory) : Function.Injective d.pathFor := by
  intro id id' h
  have hrelative : ∀ id, (Path.ofString (fileName id)).isAbsolute = false := by
    intro id
    rw [Path.ofString, fileName, Text.encode_append, Text.encode_append]
    rfl
  have hbytes := congrArg Path.bytes h
  rw [pathFor, pathFor, d.path.join_bytes (hrelative id), d.path.join_bytes (hrelative id')] at hbytes
  exact encode_fileName_injective (List.append_cancel_left hbytes)

end InputDirectory
end QueryGateway
