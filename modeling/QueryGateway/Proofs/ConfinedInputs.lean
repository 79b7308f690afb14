import QueryGateway.Proofs.Cancellation
import QueryGateway.Proofs.NumberedNames

/-!
# An acquisition is all or nothing, and stays in its directory

A request's name must be safe, or nothing is touched. With a safe name an acquisition makes one new file, right in the
directory of inputs and named after the request, or leaves every file as it was (`InputDirectory.Confined`); what else
it makes are directories on the way to that one. At no moment in between is there a new file anywhere else
(`InputDirectory.file_of_takes`). Removing the file of a dropped lease is the one operation that nothing may refuse.
-/

namespace QueryGateway

open QueryGateway.Tree (Gains Keeps MakesWay Spared)

namespace Errand

/-! ## At any moment -/

section
variable {d : InputDirectory} {cwd : Place} {e : Errand} {t now : Tree} {progress : Progress}

/-- Every file that is there of a request holds a first part of its document. -/
theorem prefix_of_share {content : Bytes} (h : e.share progress = .file content) :
    content <+: Text.encode e.document := by
  have hwritten : e.written <+: Text.encode e.document := by
    unfold written
    split
    · exact List.take_prefix _ _
    · exact List.prefix_refl _
  have hcontent : content = [] ∨ content = e.written := by
    unfold share at h
    split at h <;> cases h <;> simp
  rcases hcontent with rfl | rfl
  · exact List.nil_prefix
  · exact hwritten

/-- Under the name of a request there is what was there at first, or directories, and beside them its file at most. -/
theorem Orderly.file {spilt : Prop} (h : Orderly d cwd e t now spilt progress) :
    e.Clear t now ∨ ∃ place content, content <+: Text.encode e.document ∧ e.Stands d cwd t now place content := by
  have hshows := h.shows
  cases hshare : e.share progress with
  | nothing => rw [hshare] at hshows; exact .inl hshows
  | removed => rw [hshare] at hshows; exact .inl hshows.1
  | file content =>
    rw [hshare] at hshows
    obtain ⟨place, hstands⟩ := hshows
    exact .inr ⟨place, content, prefix_of_share hshare, hstands⟩
  | spilling => rw [hshare] at hshows; exact .inl hshows.1
  | spilt =>
    rw [hshare] at hshows
    rcases hshows with hclear | ⟨-, place, hstands⟩
    · exact .inl hclear
    · exact .inr ⟨place, [], List.nil_prefix, hstands⟩

/-- A request that takes any turns is in order, and touches nothing but its own file. -/
theorem orderly_takes (d : InputDirectory) (cwd : Place) (e : Errand) (t : Tree) (turns : List Turn) :
    Orderly d cwd e t (e.takes d cwd turns (.fresh, t)).2 True (e.takes d cwd turns (.fresh, t)).1 ∧
      Within e t (e.takes d cwd turns (.fresh, t)).2 := by
  induction turns using List.reverseRecOn with
  | nil => exact ⟨⟨nofun, fun _ _ => .inl rfl⟩, .refl e t⟩
  | append_singleton turns turn ih =>
    obtain ⟨horderly, hwithin⟩ := ih
    obtain ⟨horderly', hwithin'⟩ := horderly.take turn fun _ _ => trivial
    rw [takes, List.foldl_append]
    exact ⟨horderly', hwithin.trans hwithin'⟩

/-- A request that is not under way changes no file. -/
theorem take_idle (hsafe : InputDirectory.isSafeId e.id ≠ true) (hidle : progress.underWay = false) (turn : Turn)
    (t : Tree) : (e.take d cwd turn progress t).2 = t := by
  cases progress with
  | waiting | answered | serving | adrift => cases hidle
  | fresh => cases turn <;> simp [take, goOn, work, giveUp, Progress.leased, hsafe]
  | _ => cases turn <;> rfl

/-- A request with an unsafe name never changes a file. -/
theorem takes_refused (hsafe : InputDirectory.isSafeId e.id ≠ true) (turns : List Turn) :
    (e.takes d cwd turns (.fresh, t)).2 = t := by
  induction turns using List.reverseRecOn with
  | nil => rfl
  | append_singleton turns turn ih =>
    have hidle : (e.takes d cwd turns (.fresh, t)).1.underWay = false := by
      rw [← Bool.not_eq_true]
      exact fun hunderWay => hsafe ((orderly_takes d cwd e t turns).1.safe hunderWay)
    rw [takes, List.foldl_append]
    exact (take_idle hsafe hidle turn _).trans ih

end
end Errand

namespace InputDirectory

/-! ## Safe names -/

/-- A name that may become a file's: it is not empty, and holds ASCII letters and digits, hyphens and underscores. -/
structure SafeName (id : String) : Prop where
  nonempty : id ≠ ""
  chars : ∀ c ∈ id.toList,
    ('A' ≤ c ∧ c ≤ 'Z') ∨ ('a' ≤ c ∧ c ≤ 'z') ∨ ('0' ≤ c ∧ c ≤ '9') ∨ c = '-' ∨ c = '_'

theorem isSafeId_iff {id : String} : isSafeId id = true ↔ SafeName id := by
  have hchar : ∀ c, isSafeChar c = true ↔
      ('A' ≤ c ∧ c ≤ 'Z') ∨ ('a' ≤ c ∧ c ≤ 'z') ∨ ('0' ≤ c ∧ c ≤ '9') ∨ c = '-' ∨ c = '_' := by
    intro c
    have hranges : isSafeChar c = (decide ('A' ≤ c ∧ c ≤ 'Z') || ('a' ≤ c && c ≤ 'z') || ('0' ≤ c && c ≤ '9') ||
        c = '-' || c = '_') := rfl
    simp [hranges, or_assoc]
  rw [isSafeId, Bool.and_eq_true, decide_eq_true_eq, List.all_eq_true]
  simp only [hchar]
  exact ⟨fun h => ⟨h.1, h.2⟩, fun h => ⟨h.nonempty, h.chars⟩⟩

/-! ## One acquisition -/

/-- The path of a request's file leads to a place, and that place lies right in the directory of inputs, under the
request's name. -/
structure Child (d : InputDirectory) (cwd : Place) (id : String) (t : Tree) (place : Place) : Prop where
  located : t.locate cwd false (d.pathFor id) = .ok place
  inside : ∃ above, place = Text.encode (fileName id) :: above ∧ t.Lies cwd d.path above

section
variable {d : InputDirectory} {cwd place : Place} {id id' : String} {t t' : Tree}

theorem Child.of_locate (hsafe : isSafeId id = true) (h : t.locate cwd false (d.pathFor id) = .ok place) :
    Child d cwd id t place :=
  ⟨h, above_of_locate hsafe h⟩

/-- Two requests never share a place, whatever the files are when each of them looks for its own. -/
theorem Child.id_eq (h : Child d cwd id t place) (h' : Child d cwd id' t' place) : id = id' := by
  obtain ⟨above, rfl, -⟩ := h.inside
  obtain ⟨above', heq, -⟩ := h'.inside
  exact encode_fileName_injective (List.cons.inj heq).1

end

/-- What an acquisition does, whatever the request and the files before it are and whatever the operating system
refuses. -/
structure Confined (d : InputDirectory) (cwd : Place) (e : Errand) (t : Tree) : Prop where
  /-- An unsafe name is refused for its own sake, and nothing is touched, then or before. -/
  refused : ¬ SafeName e.id →
    d.acquire cwd e.trouble e.id e.document t = (.error (.unsafeId e.id), t) ∧
      ∀ turns, (e.takes d cwd turns (.fresh, t)).2 = t
  /-- When it succeeds, a new file is there with the document's bytes, right in the directory of inputs and named after
  the request. Everywhere else there is what was there, but for directories on the way. -/
  provided : ∀ lease t', d.acquire cwd e.trouble e.id e.document t = (.ok lease, t') →
    lease = { id := e.id, path := d.pathFor e.id } ∧
      ∃ place, Child d cwd e.id t' place ∧ t.at? place = none ∧
        t'.at? place = some (.file (Text.encode e.document) Tree.fileMode) ∧
          ∀ p, p ≠ place → Spared cwd d.path t t' p
  /-- When it fails with a safe name, everything is as it was, but for directories on the way. -/
  failed : ∀ fault t', SafeName e.id → d.acquire cwd e.trouble e.id e.document t = (.error fault, t') →
    (∃ cause, fault = .io cause) ∧ MakesWay cwd d.path t t'
  /-- It succeeds exactly when the name is safe and nothing stands in the way. -/
  succeeds : (∃ lease t', d.acquire cwd e.trouble e.id e.document t = (.ok lease, t')) ↔
    SafeName e.id ∧ Free d cwd e.trouble e.id t
  /-- It consists of turns of the request. -/
  turns : e.takes d cwd [.goOn, .work, .goOn, .work, .goOn, .work, .goOn, .work, .goOn] (.fresh, t) =
    (.ofAcquisition (d.acquire cwd e.trouble e.id e.document t).1, (d.acquire cwd e.trouble e.id e.document t).2)
  /-- After any turns, and so at any moment of an acquisition, everything is as it was, but for directories and for one
  file, right in the directory of inputs and named after the request, with a first part of the document in it. -/
  moments : ∀ turns place,
    Gains (t.at? place) ((e.takes d cwd turns (.fresh, t)).2.at? place) ∨
      (t.at? place = none ∧ Child d cwd e.id (e.takes d cwd turns (.fresh, t)).2 place ∧
        ∃ content, content <+: Text.encode e.document ∧
          (e.takes d cwd turns (.fresh, t)).2.at? place = some (.file content Tree.fileMode))

section
variable {d : InputDirectory} {cwd : Place} {e : Errand} {t t' : Tree}

theorem acquire_refused (hsafe : ¬ SafeName e.id) :
    d.acquire cwd e.trouble e.id e.document t = (.error (.unsafeId e.id), t) := by
  rw [← isSafeId_iff] at hsafe
  rw [acquire, if_pos (by simp [hsafe])]

/-- An acquisition that succeeds was free to, and puts the file of the request where nothing stood. -/
theorem provided_of_acquire {lease : Lease} (h : d.acquire cwd e.trouble e.id e.document t = (.ok lease, t')) :
    (SafeName e.id ∧ Free d cwd e.trouble e.id t) ∧ lease = { id := e.id, path := d.pathFor e.id } ∧
      ∃ place, Child d cwd e.id t' place ∧ t.at? place = none ∧
        t'.at? place = some (.file (Text.encode e.document) Tree.fileMode) ∧
          ∀ p, p ≠ place → Spared cwd d.path t t' p := by
  by_cases hname : SafeName e.id
  case neg =>
    rw [acquire_refused hname] at h
    cases h
  have hsafe := isSafeId_iff.2 hname
  have hway := d.prepare_makesWay cwd e.trouble t
  have hsettles := d.acquire_settles cwd e.trouble e.document t hsafe
  rw [h] at hsettles
  cases hsettles with
  | provided _ place hfree hlocated hvacant halters =>
    have hkeeps := Keeps.of_alters halters (by simp [hvacant]) (by simp [hvacant]) nofun
    exact ⟨⟨hname, hfree⟩, rfl, place, .of_locate hsafe (hkeeps.locate hlocated), (hway place).gains.vacant hvacant,
      halters.self, fun p hp => (hway p).keeps hkeeps (halters.other hp)⟩

/-- An acquisition that fails with a safe name was not free to succeed, and leaves nothing but directories on the
way. -/
theorem failed_of_acquire {fault : StoreFault} (hname : SafeName e.id)
    (h : d.acquire cwd e.trouble e.id e.document t = (.error fault, t')) :
    ¬ Free d cwd e.trouble e.id t ∧ (∃ cause, fault = .io cause) ∧ MakesWay cwd d.path t t' := by
  have hway := d.prepare_makesWay cwd e.trouble t
  have hsettles := d.acquire_settles cwd e.trouble e.document t (isSafeId_iff.2 hname)
  rw [h] at hsettles
  cases hsettles with
  | failed cause _ hfree hsame => exact ⟨hfree, ⟨cause, rfl⟩, hway.trans fun p => .inl (hsame p)⟩

theorem acquire_ok_iff : (∃ lease t', d.acquire cwd e.trouble e.id e.document t = (.ok lease, t')) ↔
    SafeName e.id ∧ Free d cwd e.trouble e.id t := by
  refine ⟨fun ⟨lease, t', h⟩ => (provided_of_acquire h).1, fun ⟨hname, hfree⟩ => ?_⟩
  rcases hacquire : d.acquire cwd e.trouble e.id e.document t with ⟨fault | lease, t'⟩
  · exact absurd hfree (failed_of_acquire hname hacquire).1
  · exact ⟨lease, t', rfl⟩

/-- After any turns of a request with a safe name there is what was there, or directories, and beside them its file at
most. -/
theorem file_of_takes (hsafe : isSafeId e.id = true) (turns : List Errand.Turn) (place : Place) :
    Gains (t.at? place) ((e.takes d cwd turns (.fresh, t)).2.at? place) ∨
      (t.at? place = none ∧ Child d cwd e.id (e.takes d cwd turns (.fresh, t)).2 place ∧
        ∃ content, content <+: Text.encode e.document ∧
          (e.takes d cwd turns (.fresh, t)).2.at? place = some (.file content Tree.fileMode)) := by
  obtain ⟨horderly, hwithin⟩ := e.orderly_takes d cwd t turns
  by_cases hnamed : e.Named place
  case neg => exact .inl (hwithin.elsewhere place hnamed)
  rcases horderly.file with hclear | ⟨file, content, hcontent, hstands⟩
  · exact .inl (hclear place hnamed)
  by_cases hfile : place = file
  · subst hfile
    exact .inr ⟨hstands.new, .of_locate hsafe hstands.located, content, hcontent, hstands.there⟩
  · exact .inl (hstands.elsewhere place hnamed hfile)

end

/-- Every acquisition is all or nothing. -/
theorem confined (d : InputDirectory) (cwd : Place) (e : Errand) (t : Tree) : Confined d cwd e t where
  refused hname :=
    ⟨acquire_refused hname, Errand.takes_refused fun hsafe => hname (isSafeId_iff.1 hsafe)⟩
  provided _ _ h := (provided_of_acquire h).2
  failed _ _ hname h := (failed_of_acquire hname h).2
  succeeds := acquire_ok_iff
  turns := e.takes_acquire d cwd t
  moments turns place := by
    by_cases hsafe : isSafeId e.id = true
    · exact file_of_takes hsafe turns place
    · rw [Errand.takes_refused hsafe]
      exact .inl (.inl rfl)

end InputDirectory

/-- The names that a shared count supplies are safe and differ, and whoever took both its steps has one. -/
structure Numbering.Supplies (steps : List Nat) : Prop where
  safe : ∀ i id, (run steps).draws i = .named id → InputDirectory.SafeName id
  distinct : ∀ i j id, (run steps).draws i = .named id → (run steps).draws j = .named id → i = j
  named : ∀ i, 2 ≤ steps.count i → ∃ id, (run steps).draws i = .named id
  /-- Whoever takes both its steps at once draws what a supply of numbered names gives that has given as many. -/
  alone : ∀ i, (run steps).draws i = .waiting → (run steps).count.toNat + 1 < UInt64.size →
    (run (steps ++ [i, i])).draws i = .named (Names.draw { drawn := (run steps).count.toNat }).1

namespace InputDirectory

/-- Every acquisition is all or nothing and stays in the directory of inputs; different requests never share a path nor
a place; and the names that a shared count supplies to fewer than 2^64 requests are safe and differ. -/
theorem acquire_confined (d : InputDirectory) (cwd : Place) :
    (∀ e t, Confined d cwd e t) ∧
      (Function.Injective d.pathFor ∧
        ∀ id id' t t' place, Child d cwd id t place → Child d cwd id' t' place → id = id') ∧
      ∀ steps : List Nat, steps.toFinset.card < UInt64.size → Numbering.Supplies steps := by
  refine ⟨d.confined cwd, ⟨d.pathFor_injective, fun _ _ _ _ _ => Child.id_eq⟩, fun steps hfew => ⟨?_, ?_, ?_, ?_⟩⟩
  · exact fun i id hi => isSafeId_iff.1 (Numbering.isSafeId_run hfew hi)
  · exact fun i j id hi hj => Numbering.run_distinct hfew hi hj
  · exact fun i => Numbering.exists_named_of_count
  · exact fun i hwaiting hroom => Numbering.draws_alone hwaiting hroom

/-- Two requests draw their names, one between the two steps of the other, and the second gets its file in a directory
of inputs that was not there. -/
theorem acquire_confined_interleaved :
    (Numbering.run [0, 1, 1, 0]).draws 0 = .named "req-1" ∧ (Numbering.run [0, 1, 1, 0]).draws 1 = .named "req-2" ∧
      Numbering.Supplies [0, 1, 1, 0] ∧
      ∃ lease t', acquire ⟨.ofString "/in"⟩ [] {} "req-2" "{}" {} = (.ok lease, t') ∧
        ∃ place, Child ⟨.ofString "/in"⟩ [] "req-2" t' place ∧
          t'.at? place = some (.file (Text.encode "{}") Tree.fileMode) := by
  obtain ⟨hconfined, -, hsupplies⟩ := acquire_confined ⟨.ofString "/in"⟩ []
  have hname : (Numbering.run [0, 1, 1, 0]).draws 1 = .named "req-2" := by decide
  have hsupplied := hsupplies [0, 1, 1, 0] (by decide)
  have hfree : Free ⟨.ofString "/in"⟩ [] {} "req-2" {} :=
    ⟨by decide, ⟨[Text.encode "input-req-2.json", Text.encode "in"], by decide, by decide⟩, rfl, rfl, rfl⟩
  have hrequest := hconfined ⟨"req-2", "{}", {}⟩ {}
  obtain ⟨lease, t', hacquire⟩ := hrequest.succeeds.2 ⟨hsupplied.safe 1 _ hname, hfree⟩
  obtain ⟨-, place, hchild, -, hfile, -⟩ := hrequest.provided lease t' hacquire
  exact ⟨by decide, hname, hsupplied, lease, t', hacquire, place, hchild, hfile⟩

end InputDirectory
end QueryGateway
