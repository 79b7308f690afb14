import Mathlib.Data.List.Basic
import QueryGateway.Engine.Call
import QueryGateway.Proofs.InputDirectory
import QueryGateway.Proofs.Naming
import QueryGateway.Proofs.StrictDecoding

/-!
# Paths that are texts

A path is a byte string, and an engine is told of its input by a text. The path of a text is told as it is; of any other
path the bytes that are no text are replaced (`Text.encode_lossy_iff`). The name of an input is a text, so the path of
the input is one exactly when that of the directory of inputs is (`InputDirectory.encodes_pathFor`). Only then is an
engine told where its input is (`Engines.told_input_iff`).
-/

namespace QueryGateway

namespace Text

/-- The bytes of some text. -/
def Encodes (bytes : Bytes) : Prop :=
  ∃ s, bytes = encode s

theorem encodes_ofString (s : String) : Encodes (Path.ofString s).bytes := ⟨s, rfl⟩

theorem encodes_nil : Encodes [] := ⟨"", rfl⟩

theorem encodes_slash : Encodes [Path.slash] := ⟨"/", by decide⟩

theorem Encodes.append {front back : Bytes} (h : Encodes front) (h' : Encodes back) : Encodes (front ++ back) := by
  obtain ⟨s, rfl⟩ := h
  obtain ⟨s', rfl⟩ := h'
  exact ⟨s ++ s', (encode_append s s').symm⟩

theorem Encodes.flatMap {α : Type} {as : List α} {f : α → Bytes} (h : ∀ a ∈ as, Encodes (f a)) :
    Encodes (as.flatMap f) := by
  induction as with
  | nil => exact encodes_nil
  | cons a as ih => exact (h a (by simp)).append (ih fun b hb => h b (by simp [hb]))

theorem encodes_utf8EncodeChar (c : Char) : Encodes (String.utf8EncodeChar c) :=
  ⟨String.ofList [c], by simp [encode]⟩

/-- Bytes without a slash belong to the stretch that follows. -/
theorem stretches_append_of_not_mem {front back part : Bytes} {parts : List Bytes} (h : Path.slash ∉ front)
    (hback : Path.stretches back = part :: parts) : Path.stretches (front ++ back) = (front ++ part) :: parts := by
  induction front with
  | nil => exact hback
  | cons b front ih =>
    rw [List.mem_cons, not_or] at h
    rw [List.cons_append, Path.stretches_cons (ih h.2), if_neg (Ne.symm h.1)]
    rfl

/-- The stretches of a text are texts. -/
theorem encodes_of_mem_stretches {s : String} {part : Bytes} (h : part ∈ Path.stretches (encode s)) : Encodes part := by
  unfold encode at h
  generalize s.toList = cs at h
  induction cs generalizing part with
  | nil =>
    obtain rfl : part = [] := by simpa [Path.stretches] using h
    exact encodes_nil
  | cons c cs ih =>
    obtain ⟨first, more, hcs⟩ := Path.exists_stretches (cs.flatMap String.utf8EncodeChar)
    rw [hcs] at ih
    rw [List.flatMap_cons] at h
    by_cases hslash : Path.slash ∈ String.utf8EncodeChar c
    · obtain rfl := slash_mem_utf8EncodeChar hslash
      have hone : String.utf8EncodeChar '/' = [Path.slash] := by decide
      rw [hone, List.singleton_append, Path.stretches_cons hcs, if_pos rfl] at h
      rcases List.mem_cons.1 h with rfl | h
      · exact encodes_nil
      · exact ih h
    · rw [stretches_append_of_not_mem hslash hcs] at h
      rcases List.mem_cons.1 h with rfl | h
      · exact (encodes_utf8EncodeChar c).append (ih (by simp))
      · exact ih (by simp [h])

/-- A text that starts with the byte of a slash starts with a slash. -/
theorem eq_slash_cons_of_head? {s : String} (h : (encode s).head? = some Path.slash) : ∃ cs, s.toList = '/' :: cs := by
  unfold encode at h
  cases hs : s.toList with
  | nil =>
    rw [hs] at h
    cases h
  | cons c cs =>
    rw [hs, List.flatMap_cons, List.head?_append_of_ne_nil _ (by simp)] at h
    exact ⟨cs, by rw [slash_mem_utf8EncodeChar (List.mem_of_mem_head? h)]⟩

/-- What stands in front of a slash in a text is a text: a character with a slash among its bytes has no others. -/
theorem Encodes.of_append_slash {front back : Bytes} (h : Encodes (front ++ Path.slash :: back)) : Encodes front := by
  obtain ⟨s, h⟩ := h
  unfold encode at h
  generalize s.toList = cs at h
  induction cs generalizing front with
  | nil => simp at h
  | cons c cs ih =>
    rw [List.flatMap_cons] at h
    rcases List.append_eq_append_iff.1 h with ⟨rest, hchar, hrest⟩ | ⟨front', rfl, hrest⟩
    · cases rest with
      | nil =>
        rw [List.append_nil] at hchar
        exact hchar ▸ encodes_utf8EncodeChar c
      | cons b rest =>
        obtain ⟨rfl, -⟩ := List.cons.inj hrest
        obtain rfl := slash_mem_utf8EncodeChar (c := c) (by rw [hchar]; simp)
        have hone : String.utf8EncodeChar '/' = [Path.slash] := by decide
        have hlength := congrArg List.length (hone.symm.trans hchar)
        obtain rfl : front = [] := by
          rw [List.length_append, List.length_cons, List.length_cons, List.length_nil] at hlength
          exact List.length_eq_zero_iff.1 (by omega)
        exact encodes_nil
    · exact (encodes_utf8EncodeChar c).append (ih hrest.symm)

/-- Bytes are those of the text that they are read as exactly when they are those of some text. -/
theorem encode_lossy_iff {bytes : Bytes} : encode (lossy bytes) = bytes ↔ Encodes bytes := by
  constructor
  · intro h
    exact ⟨_, h.symm⟩
  · rintro ⟨s, rfl⟩
    rw [lossy_encode]

end Text

namespace Path

/-- The bytes of a path are a text when the path is one. -/
theorem encodes_iff {p : Path} : Text.Encodes p.bytes ↔ ∃ text, p = .ofString text := by
  constructor
  · rintro ⟨s, hs⟩
    exact ⟨s, by rw [ofString, ← hs]⟩
  · rintro ⟨text, rfl⟩
    exact Text.encodes_ofString text

/-- A path with the text of a name behind it is a text exactly when the path is. -/
theorem encodes_join (p : Path) {name : String} (h : Names (Text.encode name)) :
    Text.Encodes (p.join (.ofString name)).bytes ↔ Text.Encodes p.bytes := by
  have hjoin : (p.join (.ofString name)).bytes = p.bytes ++ p.between ++ Text.encode name :=
    p.join_bytes (q := .ofString name) h.relative
  rw [hjoin, between]
  split
  case isTrue hend =>
    rw [List.append_nil]
    refine ⟨fun hwhole => ?_, fun hp => hp.append ⟨name, rfl⟩⟩
    rcases hend with hnil | hlast
    · rw [hnil]
      exact Text.encodes_nil
    · obtain ⟨fore, hfore⟩ := List.getLast?_eq_some_iff.1 hlast
      rw [hfore, List.append_assoc, List.singleton_append] at hwhole
      rw [hfore]
      exact hwhole.of_append_slash.append Text.encodes_slash
  case isFalse =>
    rw [List.append_assoc, List.singleton_append]
    exact ⟨Text.Encodes.of_append_slash, fun hp => hp.append (Text.encodes_slash.append ⟨name, rfl⟩)⟩

end Path

/-! ## The place of an input -/

/-- The path of an input is a text exactly when that of the directory is. -/
theorem InputDirectory.encodes_pathFor (d : InputDirectory) {id : String} (h : isSafeId id = true) :
    Text.Encodes (d.pathFor id).bytes ↔ Text.Encodes d.path.bytes :=
  d.path.encodes_join (names_fileName h)

/-- What was provided was asked for under a safe name, and stands at the path of that name. -/
theorem InputDirectory.path_of_acquire {d : InputDirectory} {cwd : Place} {trouble : Trouble} {id document : String}
    {lease : Lease} {t t' : Tree} (h : d.acquire cwd trouble id document t = (.ok lease, t')) :
    isSafeId id = true ∧ lease.path = d.pathFor id := by
  have hcases := d.acquire_cases cwd trouble id document t
  rw [h] at hcases
  cases hcases with
  | provided _ _ _ hsafe => exact ⟨hsafe, rfl⟩

/-- The last argument of an engine, whichever it is, is the path of its input as text. -/
theorem Engines.getLast?_arguments (engines : Engines) (engine : Engine) (expression : String) (input : Path) :
    (engines.call engine expression input).arguments.getLast? = some input.display := by
  cases engine <;> rfl

/-- An engine is told the path of the input that was provided for it exactly when the path of the directory of inputs is
a text. Then it finds the document there. -/
theorem Engines.told_input_iff {d : InputDirectory} {cwd : Place} {trouble : Trouble} {id document : String}
    {lease : Lease} {t t' : Tree} (h : d.acquire cwd trouble id document t = (.ok lease, t')) (engines : Engines)
    (engine : Engine) (expression : String) :
    ∃ told, (engines.call engine expression lease.path).arguments.getLast? = some told ∧
      (Path.ofString told = lease.path ↔ ∃ text, d.path = .ofString text) ∧
      ((∃ text, d.path = .ofString text) → t'.read cwd (.ofString told) = .ok (Text.encode document)) := by
  obtain ⟨hsafe, hpath⟩ := InputDirectory.path_of_acquire h
  have htold : Path.ofString lease.path.display = lease.path ↔ ∃ text, d.path = .ofString text := by
    rw [← Path.encodes_iff, ← d.encodes_pathFor hsafe, hpath, ← Text.encode_lossy_iff]
    exact Path.mk.injEq _ _ ▸ Iff.rfl
  refine ⟨_, engines.getLast?_arguments engine expression lease.path, htold, fun htext => ?_⟩
  rw [htold.2 htext]
  exact InputDirectory.read_of_acquire h

/-- Outside the letters of ASCII, the path of a text is told as it is. -/
theorem Engines.told_input_iff_accent :
    let d : InputDirectory := ⟨.ofString "/é"⟩
    let engines : Engines := { query := .ofString "/opt/jqlite", visualization := .ofString "/opt/viz" }
    ∃ lease t', d.acquire [] {} "req-1" "42" {} = (.ok lease, t') ∧
      ∃ told, (engines.call .visualization "." lease.path).arguments.getLast? = some told ∧
        Path.ofString told = lease.path ∧ t'.read [] (.ofString told) = .ok (Text.encode "42") := by
  intro d engines
  have hacquire : ∃ lease t', d.acquire [] {} "req-1" "42" {} = (.ok lease, t') := ⟨_, _, rfl⟩
  obtain ⟨lease, t', h⟩ := hacquire
  obtain ⟨told, hlast, htold, hread⟩ := told_input_iff h engines .visualization "."
  exact ⟨lease, t', h, told, hlast, htold.2 ⟨"/é", rfl⟩, hread ⟨"/é", rfl⟩⟩

/-- An input in a directory whose path is no text is at its path, but the engine is told another one, where there is
nothing. -/
theorem Engines.told_input_elsewhere :
    let d : InputDirectory := ⟨⟨[0x2F, 0xFF]⟩⟩
    let engines : Engines := { query := .ofString "/opt/jqlite", visualization := .ofString "/opt/viz" }
    let acquired := d.acquire [] {} "req-1" "42" {}
    acquired.1.toOption.map Lease.path = some (d.pathFor "req-1") ∧
      acquired.2.read [] (d.pathFor "req-1") = .ok (Text.encode "42") ∧
      (engines.call .query "." (d.pathFor "req-1")).arguments.getLast? = some "/\ufffd/input-req-1.json" ∧
      Text.encode "/\ufffd/input-req-1.json" ≠ (d.pathFor "req-1").bytes ∧
      acquired.2.read [] (.ofString "/\ufffd/input-req-1.json") = .error (.os .notFound) := by
  decide

end QueryGateway
