import Mathlib.Data.List.Basic
import Mathlib.Data.List.Induction
import QueryGateway.Gateway.Lifecycle
import QueryGateway.Proofs.Configuration
import QueryGateway.Proofs.TextPaths
import QueryGateway.Proofs.Trimming

/-!
# Places that settings name

Whatever a setting says, the place it names is written out in full: it begins at the root and has no part that is empty
or a single dot (`Path.Plain`, `Path.plain_spelled`). Its components are those of what the setting says, behind those of
the working directory when that is relative (`Surroundings.locate_eq`). A place that is written out in full names itself
wherever it is looked up (`Surroundings.locate_spelled`), so that the paths a health report shows may be put back into
the variables they came from (`Surroundings.locate_settled`).
-/

namespace QueryGateway

/-! ## Parts of a path -/

namespace Path

/-- No stretch has a slash in it. -/
theorem slash_not_mem_of_mem_stretches {bytes part : Bytes} (h : part ∈ stretches bytes) : slash ∉ part := by
  induction bytes generalizing part with
  | nil =>
    obtain rfl : part = [] := by simpa [stretches] using h
    exact List.not_mem_nil
  | cons b rest ih =>
    obtain ⟨first, more, hrest⟩ := exists_stretches rest
    rw [hrest] at ih
    rw [stretches_cons hrest] at h
    split at h
    case isTrue =>
      rcases List.mem_cons.1 h with rfl | h
      · exact List.not_mem_nil
      · exact ih h
    case isFalse hb =>
      rcases List.mem_cons.1 h with rfl | h
      · rw [List.mem_cons, not_or]
        exact ⟨Ne.symm hb, ih (by simp)⟩
      · exact ih (by simp [h])

/-- A component that stands between slashes, and is the one that its bytes are read as. -/
structure Component.Inner (c : Component) : Prop where
  slash : slash ∉ c.bytes
  component : component? c.bytes = some c

/-- What a stretch is read as has the bytes of the stretch. -/
theorem bytes_of_component? {part : Bytes} {c : Component} (h : component? part = some c) : c.bytes = part := by
  unfold component? at h
  split at h
  · cases h
  split at h
  case isTrue hparent =>
    cases h
    exact hparent.symm
  case isFalse =>
    cases h
    rfl

namespace Component.Inner

variable {c : Component}

theorem ne_nil (h : c.Inner) : c.bytes ≠ [] := by
  intro hnil
  have hnone := h.component
  rw [hnil] at hnone
  cases hnone

theorem ne_dot (h : c.Inner) : c.bytes ≠ [dot] := by
  intro hdot
  have hnone := h.component
  rw [hdot] at hnone
  cases hnone

theorem ne_current (h : c.Inner) : c ≠ .current := by
  rintro rfl
  exact h.ne_dot rfl

theorem relative (h : c.Inner) : (⟨c.bytes⟩ : Path).isAbsolute = false :=
  decide_eq_false fun hhead => h.slash (List.mem_of_mem_head? hhead)

/-- An inner component makes a path longer by a slash and its bytes. -/
theorem join_eq (h : c.Inner) {p : Path} (hne : p.bytes ≠ []) (hlast : p.bytes.getLast? ≠ some Path.slash) :
    p.join ⟨c.bytes⟩ = ⟨p.bytes ++ Path.slash :: c.bytes⟩ := by
  rw [join, if_neg (by simp [h.relative]), if_neg (by simp [hne, hlast])]

/-- The path so far does not end in a slash. -/
theorem getLast?_ne (h : c.Inner) (front : Bytes) : (front ++ Path.slash :: c.bytes).getLast? ≠ some Path.slash := by
  rw [List.getLast?_append, List.getLast?_cons_of_ne_nil h.ne_nil, Option.or_of_isSome (by simp [h.ne_nil])]
  exact fun hlast => h.slash (List.mem_of_getLast? hlast)

end Component.Inner

/-- The components of a path between its slashes. -/
def inner (p : Path) : List Component :=
  (stretches p.bytes).filterMap component?

theorem inner_of_mem {p : Path} {c : Component} (h : c ∈ p.inner) : c.Inner := by
  obtain ⟨part, hpart, hc⟩ := List.mem_filterMap.1 h
  have hbytes := bytes_of_component? hc
  exact ⟨hbytes ▸ slash_not_mem_of_mem_stretches hpart, by rw [hbytes, hc]⟩

/-- The components of a path are the root, if it begins there, and the inner ones, if a dot at its front is left out. -/
theorem filter_components (p : Path) :
    p.components.filter (· ≠ .current) = (if p.isAbsolute then [.root] else []) ++ p.inner := by
  have hinner : p.inner.filter (· ≠ .current) = p.inner :=
    List.filter_eq_self.2 fun c hc => by simp [(inner_of_mem hc).ne_current]
  unfold components
  simp only
  split
  · rw [List.filter_cons_of_pos (by decide)]
    exact congrArg (Component.root :: ·) hinner
  split
  · rw [List.filter_cons_of_neg (by decide)]
    exact hinner
  · exact hinner

/-- The path from the root that has these components, each behind a slash. -/
def spelled (cs : List Component) : Path :=
  ⟨if cs = [] then [slash] else cs.flatMap fun c => slash :: c.bytes⟩

/-- Inner components are put behind a path one after the other. -/
theorem foldl_join {cs : List Component} (h : ∀ c ∈ cs, c.Inner) {p : Path} (hne : p.bytes ≠ [])
    (hlast : p.bytes.getLast? ≠ some slash) :
    cs.foldl (fun p c => p.join ⟨c.bytes⟩) p = ⟨p.bytes ++ cs.flatMap fun c => slash :: c.bytes⟩ := by
  induction cs generalizing p with
  | nil => simp
  | cons c cs ih =>
    have hc : c.Inner := h c (by simp)
    rw [List.foldl_cons, hc.join_eq hne hlast, ih (fun d hd => h d (by simp [hd])) (by simp) (hc.getLast?_ne _)]
    simp

/-- Components behind the root, which is a slash already, make the path that is spelled with them. -/
theorem ofComponents_root {cs : List Component} (h : ∀ c ∈ cs, c.Inner) : ofComponents (.root :: cs) = spelled cs := by
  have hroot : (⟨[]⟩ : Path).join ⟨Component.root.bytes⟩ = ⟨[slash]⟩ := rfl
  rw [ofComponents, List.foldl_cons, hroot]
  cases cs with
  | nil => rfl
  | cons c cs =>
    have hc : c.Inner := h c (by simp)
    have hfirst : (⟨[slash]⟩ : Path).join ⟨c.bytes⟩ = ⟨[] ++ slash :: c.bytes⟩ := by
      rw [join, if_neg (by simp [hc.relative]), if_pos (.inr rfl)]
      rfl
    rw [List.foldl_cons, hfirst, foldl_join (fun d hd => h d (by simp [hd])) (by simp) (hc.getLast?_ne _)]
    simp [spelled]

/-- The stretches of components behind slashes are their bytes, behind an empty one. -/
theorem stretches_flatMap {cs : List Component} (h : ∀ c ∈ cs, c.Inner) :
    stretches (cs.flatMap fun c => slash :: c.bytes) = [] :: cs.map Component.bytes := by
  induction cs using List.reverseRecOn with
  | nil => rfl
  | append_singleton cs c ih =>
    rw [List.flatMap_append, List.flatMap_singleton, stretches_append, ih fun d hd => h d (by simp [hd]),
      stretches_of_not_mem (h c (by simp)).slash, List.map_append]
    rfl

section
variable {cs : List Component} (h : ∀ c ∈ cs, c.Inner)

theorem isAbsolute_spelled (cs : List Component) : (spelled cs).isAbsolute = true := by
  cases cs <;> rfl

include h

/-- A spelled path has the components that it is spelled with. -/
theorem inner_spelled : (spelled cs).inner = cs := by
  have hall : (cs.map Component.bytes).filterMap component? = cs := by
    rw [List.filterMap_map]
    exact (List.filterMap_congr fun c hc => (h c hc).component).trans (List.filterMap_some)
  rw [inner, spelled]
  split
  case isTrue hnil =>
    rw [hnil]
    rfl
  case isFalse => rw [stretches_flatMap h, List.filterMap_cons_none rfl, hall]

end

/-- A path from the root is made plain by spelling its components. -/
theorem normalize_of_isAbsolute {p : Path} (h : p.isAbsolute = true) : p.normalize = spelled p.inner := by
  rw [normalize, filter_components, if_pos h]
  exact ofComponents_root fun c => inner_of_mem

/-- A path written out in full: it begins at the root, none of its parts is a single dot, none is empty and it does not
end in a slash unless it is the root. -/
structure Plain (p : Path) : Prop where
  absolute : p.isAbsolute = true
  no_dot : [dot] ∉ stretches p.bytes
  no_empty : [] ∈ (stretches p.bytes).tail → p.bytes = [slash]
  no_closing : p.bytes.getLast? = some slash → p.bytes = [slash]

/-- A spelled path is written out in full. -/
theorem plain_spelled {cs : List Component} (h : ∀ c ∈ cs, c.Inner) : Plain (spelled cs) := by
  refine ⟨isAbsolute_spelled cs, ?_, ?_, ?_⟩
  all_goals
    rw [spelled]
    simp only
    split
  · decide
  · rw [stretches_flatMap h, List.mem_cons, not_or]
    refine ⟨by simp, fun hdot => ?_⟩
    obtain ⟨c, hc, hbytes⟩ := List.mem_map.1 hdot
    exact (h c hc).ne_dot hbytes
  · exact fun _ => rfl
  · rw [stretches_flatMap h, List.tail_cons]
    intro hempty
    obtain ⟨c, hc, hbytes⟩ := List.mem_map.1 hempty
    exact absurd hbytes (h c hc).ne_nil
  · exact fun _ => rfl
  · next hne =>
    obtain ⟨front, c, rfl⟩ := List.eq_nil_or_concat cs |>.resolve_left hne
    rw [List.concat_eq_append, List.flatMap_append, List.flatMap_singleton]
    exact fun hlast => absurd hlast ((h c (by simp)).getLast?_ne _)

section
variable {p q : Path}

/-- A path made longer begins where it began, or where the other one begins. -/
theorem isAbsolute_join (h : p.isAbsolute = true) : (p.join q).isAbsolute = true := by
  cases hq : q.isAbsolute with
  | true => rwa [join, if_pos hq]
  | false =>
    have hhead : p.bytes.head? = some slash := of_decide_eq_true h
    rw [isAbsolute, join_bytes p hq, List.append_assoc, List.head?_append, hhead]
    rfl

/-- A path made longer by a relative one has the inner components of both. Behind a slash at the end of the first there is
only an empty stretch. -/
theorem inner_join (h : q.isAbsolute = false) : (p.join q).inner = p.inner ++ q.inner := by
  rw [inner, join_bytes p h, inner, inner, between]
  split
  case isTrue hend =>
    rw [List.append_nil]
    rcases hend with hnil | hlast
    · rw [hnil]
      rfl
    · obtain ⟨fore, hfore⟩ := List.getLast?_eq_some_iff.1 hlast
      rw [hfore, List.append_assoc, List.singleton_append, stretches_append, stretches_append, List.filterMap_append,
        List.filterMap_append]
      simp [stretches, component?]
  case isFalse => rw [List.append_assoc, List.singleton_append, stretches_append, List.filterMap_append]

end
end Path

/-! ## Texts -/

namespace Text

/-- A text ends in a blank. -/
def EndsBlank (s : String) : Prop :=
  ∃ c ∈ s.toList.getLast?, isBlank c = true

/-- A text that neither starts nor ends in a blank is trimmed. -/
theorem trim_eq_self {s : String} (hfront : ∀ c ∈ s.toList.head?, isBlank c = false) (hback : ¬ EndsBlank s) :
    trim s = s := by
  have hdrop : s.toList.dropWhile isBlank = s.toList := by
    cases hs : s.toList with
    | nil => rfl
    | cons c cs => rw [List.dropWhile_cons_of_neg (by simp [hfront c (by simp [hs])])]
  have hend : s.toList.reverse.dropWhile isBlank = s.toList.reverse := by
    cases hs : s.toList.reverse with
    | nil => rfl
    | cons c cs =>
      refine List.dropWhile_cons_of_neg fun hc => hback ⟨c, ?_, hc⟩
      rw [← List.head?_reverse, hs]
      rfl
  rw [trim, trimChars, hdrop, dropEnd, hend, List.reverse_reverse, String.ofList_toList]

end Text

/-! ## Places -/

/-- The bytes of a spelled path are those of a text when those of its components are. -/
theorem Path.encodes_spelled {cs : List Path.Component} (h : ∀ c ∈ cs, Text.Encodes c.bytes) :
    Text.Encodes (Path.spelled cs).bytes := by
  rw [spelled]
  simp only
  split
  · exact Text.encodes_slash
  · exact .flatMap fun c hc => Text.encodes_slash.append (h c hc)

/-- The inner components of a text are texts. -/
theorem Path.encodes_of_mem_inner {p : Path} (hp : Text.Encodes p.bytes) {c : Path.Component} (h : c ∈ p.inner) :
    Text.Encodes c.bytes := by
  obtain ⟨s, hs⟩ := hp
  obtain ⟨part, hpart, hc⟩ := List.mem_filterMap.1 h
  rw [bytes_of_component? hc]
  exact Text.encodes_of_mem_stretches (hs ▸ hpart)

namespace Surroundings

/-- Work goes on at an absolute place, and the paths of the surroundings are texts. -/
structure Legible (around : Surroundings) : Prop where
  absolute : around.cwd.isAbsolute = true
  cwd : Text.Encodes around.cwd.bytes
  home : ∀ home ∈ around.home, Text.Encodes home.bytes

/-- What a setting says, with its tilde replaced. -/
def said (around : Surroundings) (raw : String) : Path :=
  around.expandTilde (Text.trim raw)

/-- The inner components of the place that a setting names. -/
def way (around : Surroundings) (raw : String) : List Path.Component :=
  (if (around.said raw).isAbsolute then [] else around.cwd.inner) ++ (around.said raw).inner

section
variable {around : Surroundings}

theorem inner_of_mem_way (raw : String) : ∀ c ∈ around.way raw, c.Inner := by
  intro c hc
  rw [way] at hc
  split at hc
  · exact Path.inner_of_mem (by simpa using hc)
  · exact (List.mem_append.1 hc).elim Path.inner_of_mem Path.inner_of_mem

/-- A setting names the path that is spelled with the components of the working directory, unless it says where to begin
itself, and with its own. -/
theorem locate_eq (habsolute : around.cwd.isAbsolute = true) (raw : String) :
    around.locate raw = Path.spelled (around.way raw) := by
  have hlocate : around.locate raw = (around.cwd.join (around.said raw)).normalize := rfl
  rw [hlocate, way]
  cases hsaid : (around.said raw).isAbsolute with
  | true =>
    rw [Path.join, if_pos hsaid, Path.normalize_of_isAbsolute hsaid, if_pos rfl, List.nil_append]
  | false =>
    rw [Path.normalize_of_isAbsolute (Path.isAbsolute_join habsolute), Path.inner_join hsaid, if_neg Bool.false_ne_true]

/-- What a setting says is a text. -/
theorem Legible.said (h : around.Legible) (raw : String) : Text.Encodes (around.said raw).bytes := by
  rw [Surroundings.said, expandTilde]
  split
  case h_1 home _ hhome => exact h.home home hhome
  case h_2 rest home _ hhome => exact (h.home home hhome).append (Text.encodes_slash.append ⟨_, rfl⟩)
  case h_3 => exact Text.encodes_ofString (Text.trim raw)

/-- The place that a setting names is a text. -/
theorem Legible.locate (h : around.Legible) (raw : String) : ∃ text, around.locate raw = .ofString text := by
  have hway : ∀ c ∈ around.way raw, Text.Encodes c.bytes := by
    intro c hc
    rw [way] at hc
    split at hc
    · exact Path.encodes_of_mem_inner (h.said raw) (by simpa using hc)
    · exact (List.mem_append.1 hc).elim (Path.encodes_of_mem_inner h.cwd) (Path.encodes_of_mem_inner (h.said raw))
  obtain ⟨text, htext⟩ := Path.encodes_spelled hway
  exact ⟨text, by rw [locate_eq h.absolute, Path.ofString, ← htext]⟩

/-- A spelled path names itself, wherever it is looked up, unless it ends in a blank. -/
theorem locate_spelled {cs : List Path.Component} (hinner : ∀ c ∈ cs, c.Inner) {text : String}
    (htext : Path.spelled cs = .ofString text) (hblank : ¬ Text.EndsBlank text) (around : Surroundings) :
    around.locate text = Path.spelled cs := by
  have habsolute := Path.isAbsolute_spelled cs
  obtain ⟨rest, hrest⟩ : ∃ rest, text.toList = '/' :: rest := by
    refine Text.eq_slash_cons_of_head? ?_
    rw [htext] at habsolute
    exact of_decide_eq_true habsolute
  have htrim : Text.trim text = text := by
    refine Text.trim_eq_self (fun c hc => ?_) hblank
    rw [hrest] at hc
    obtain rfl : '/' = c := by simpa using hc
    decide
  have hexpand : around.expandTilde text = .ofString text := by
    unfold expandTilde
    rw [hrest]
    rfl
  have hlocate : around.locate text = (around.cwd.join (Path.spelled cs)).normalize := by
    rw [Surroundings.locate, htrim, hexpand, htext]
  rw [hlocate, Path.join, if_pos habsolute, Path.normalize_of_isAbsolute habsolute, Path.inner_spelled hinner]

/-- A setting that says the path that a setting names, names it too, wherever it is looked up. -/
theorem Legible.locate_again (h : around.Legible) {raw text : String} (htext : around.locate raw = .ofString text)
    (hblank : ¬ Text.EndsBlank text) (around' : Surroundings) : around'.locate text = around.locate raw := by
  rw [locate_eq h.absolute] at htext ⊢
  exact locate_spelled (inner_of_mem_way raw) htext hblank around'

/-- The components of the place that a setting names. -/
theorem components_locate (habsolute : around.cwd.isAbsolute = true) (raw : String) :
    (around.locate raw).components = ((if (around.said raw).isAbsolute then [] else around.cwd.components) ++
      (around.said raw).components).filter (· ≠ .current) := by
  have hspelled : ∀ cs : List Path.Component, (∀ c ∈ cs, c.Inner) → (Path.spelled cs).components = .root :: cs := by
    intro cs hcs
    have hinner := Path.inner_spelled hcs
    rw [Path.inner] at hinner
    simp only [Path.components, Path.isAbsolute_spelled, if_true, hinner]
  rw [locate_eq habsolute, hspelled _ (inner_of_mem_way raw), List.filter_append, Path.filter_components, way]
  cases hsaid : (around.said raw).isAbsolute with
  | true => simp only [if_true, List.filter_nil, List.nil_append, List.cons_append]
  | false =>
    simp only [Bool.false_eq_true, if_false, if_true, Path.filter_components, habsolute, List.nil_append,
      List.cons_append]

/-- What a setting comes to: a path written out in full, with the components of what the setting says, behind those of
the working directory when that is relative, each parent kept and each single dot left out. It is a text, and one that
names the same path when a setting says it, whatever the surroundings are then. -/
structure Settles (around : Surroundings) (raw : String) : Prop where
  plain : (around.locate raw).Plain
  components : (around.locate raw).components = ((if (around.said raw).isAbsolute then [] else around.cwd.components) ++
    (around.said raw).components).filter (· ≠ .current)
  again : ∃ text, around.locate raw = .ofString text ∧
    (¬ Text.EndsBlank text → ∀ around' : Surroundings, around'.locate text = around.locate raw)

theorem Legible.settles (h : around.Legible) (raw : String) : around.Settles raw where
  plain := by
    rw [locate_eq h.absolute]
    exact Path.plain_spelled (inner_of_mem_way raw)
  components := components_locate h.absolute raw
  again := by
    obtain ⟨text, htext⟩ := h.locate raw
    exact ⟨text, htext, h.locate_again htext⟩

end
end Surroundings

/-! ## Engines -/

/-- The path that a report shows for an engine. -/
def Health.pathOf (report : Health) : Engine → String
  | .query => report.queryPath
  | .visualization => report.visualizationPath

/-- A report shows where the program of an engine is. -/
theorem Ports.pathOf_health {σ : Type} (ports : Ports σ) (engines : Engines) (s : σ) (engine : Engine) :
    (ports.health engines s).pathOf engine = (engines.program engine).display := by
  cases engine <;> rfl

namespace Settings

open Lookup

/-- The variable that names the program of an engine. -/
def programVariable : Engine → String
  | .query => "JQLITE_ENGINE_PATH"
  | .visualization => "JQLITE_VIZ_ENGINE_PATH"

theorem programVariable_injective : Function.Injective programVariable := by
  intro engine engine' h
  cases engine <;> cases engine' <;> first | rfl | simp [programVariable] at h

/-- What it says unless it is set. -/
def standardProgram : Engine → String
  | .query => "./jqlite"
  | .visualization => "./jqlite_viz"

/-- The variables are as they were, but that of an engine may say what a report shows for the engine, if that does not
end in a blank. -/
def FedBack (report : Health) (lookup lookup' : Lookup) : Prop :=
  ∀ name, lookup' name = lookup name ∨ ∃ engine, name = programVariable engine ∧
    lookup' name = some (report.pathOf engine) ∧ ¬ Text.EndsBlank (report.pathOf engine)

section
variable {around : Surroundings} {settings : Settings}

/-- The program of an engine is at the place that its variable names. -/
theorem ReadFrom.program {lookup : Lookup} (h : ReadFrom around lookup settings) (engine : Engine) :
    settings.engines.program engine =
      around.locate ((lookup.filled (programVariable engine)).getD (standardProgram engine)) := by
  cases engine with
  | query => exact (gives_apply_iff (f := around.locate)).1 h.query
  | visualization => exact (gives_apply_iff (f := around.locate)).1 h.visualization

/-- Settings are read from other variables as well when those of the engines name the same places. -/
theorem ReadFrom.programs {lookup lookup' : Lookup} (h : ReadFrom around lookup settings)
    (hothers : ∀ name, (∀ engine, name ≠ programVariable engine) → lookup' name = lookup name)
    (hprograms : ∀ engine, settings.engines.program engine =
      around.locate ((lookup'.filled (programVariable engine)).getD (standardProgram engine))) :
    ReadFrom around lookup' settings := by
  have hsame : ∀ name, name ≠ "JQLITE_ENGINE_PATH" → name ≠ "JQLITE_VIZ_ENGINE_PATH" →
      lookup'.Holds name = lookup.Holds name := by
    intro name hquery hvisualization
    have hvalue : lookup' name = lookup name := hothers name fun engine => by cases engine <;> assumption
    unfold Holds
    rw [hvalue]
  have hfirst : lookup'.HoldsFirst "JQLITE_PORT" "PORT" = lookup.HoldsFirst "JQLITE_PORT" "PORT" := by
    unfold HoldsFirst
    rw [hsame _ (by decide) (by decide), hsame "PORT" (by decide) (by decide)]
  exact {
    host := by rw [hsame _ (by decide) (by decide)]; exact h.host
    port := by rw [hfirst]; exact h.port
    bodyLimit := by rw [hsame _ (by decide) (by decide)]; exact h.bodyLimit
    staticDirectory := by rw [hsame _ (by decide) (by decide)]; exact h.staticDirectory
    timeout := by rw [hsame _ (by decide) (by decide)]; exact h.timeout
    outputLimit := by rw [hsame _ (by decide) (by decide)]; exact h.outputLimit
    overflow := by rw [hsame _ (by decide) (by decide)]; exact h.overflow
    query := (gives_apply_iff (f := around.locate)).2 (hprograms .query)
    visualization := (gives_apply_iff (f := around.locate)).2 (hprograms .visualization)
    inputs := by rw [hsame _ (by decide) (by decide)]; exact h.inputs
    allowlist := by rw [hsame _ (by decide) (by decide)]; exact h.allowlist
    logFormat := by rw [hsame _ (by decide) (by decide)]; exact h.logFormat
    logDirectory := by rw [hsame _ (by decide) (by decide)]; exact h.logDirectory }

/-- A report that is fed back changes no settings, and wherever they are read, an engine whose path was fed back is
where it was. -/
structure Reloads (around : Surroundings) (lookup : Lookup) (settings : Settings) : Prop where
  plain : ∀ engine, (settings.engines.program engine).Plain
  fed : ∀ {σ : Type} (ports : Ports σ) (s : σ) (lookup' : Lookup),
    FedBack (ports.health settings.engines s) lookup lookup' →
      ofLookup around lookup' = .ok settings ∧
        ∀ around' : Surroundings, ∃ settings', ofLookup around' lookup' = .ok settings' ∧
          ∀ engine, lookup' (programVariable engine) = some ((ports.health settings.engines s).pathOf engine) →
            ¬ Text.EndsBlank ((ports.health settings.engines s).pathOf engine) →
              settings'.engines.program engine = settings.engines.program engine

/-- The program of an engine is at a place that a text names, which is not blank. -/
theorem ReadFrom.program_eq {lookup : Lookup} (h : ReadFrom around lookup settings) (hlegible : around.Legible)
    (engine : Engine) : ∃ text, settings.engines.program engine = .ofString text ∧ Text.allBlank text = false ∧
      (¬ Text.EndsBlank text → ∀ around' : Surroundings, around'.locate text = settings.engines.program engine) := by
  have hsettles := hlegible.settles ((lookup.filled (programVariable engine)).getD (standardProgram engine))
  obtain ⟨text, htext, hagain⟩ := hsettles.again
  have habsolute := hsettles.plain.absolute
  rw [htext] at habsolute
  obtain ⟨rest, hrest⟩ := Text.eq_slash_cons_of_head? (of_decide_eq_true habsolute)
  have hslash : Text.isBlank '/' = false := by decide
  rw [h.program engine]
  exact ⟨text, htext, by rw [Text.allBlank, hrest, List.all_cons, hslash, Bool.false_and], hagain⟩

end

/-- Settings that are read in legible surroundings are read again from what is reported of them. -/
theorem reloads {around : Surroundings} (hlegible : around.Legible) {lookup : Lookup} {settings : Settings}
    (h : ofLookup around lookup = .ok settings) : Reloads around lookup settings := by
  have hread := ofLookup_eq_ok_iff.1 h
  refine ⟨fun engine => ?_, fun ports s lookup' hfed => ?_⟩
  · rw [hread.program engine]
    exact (hlegible.settles _).plain
  have hreported : ∀ engine,
      (ports.health settings.engines s).pathOf engine = (settings.engines.program engine).display :=
    ports.pathOf_health settings.engines s
  have hnames : ∀ engine, Text.allBlank (settings.engines.program engine).display = false ∧
      (¬ Text.EndsBlank (settings.engines.program engine).display → ∀ around' : Surroundings,
        around'.locate (settings.engines.program engine).display = settings.engines.program engine) := by
    intro engine
    obtain ⟨text, htext, hfilled, hagain⟩ := hread.program_eq hlegible engine
    have hdisplay : (settings.engines.program engine).display = text := by rw [htext, Path.display_ofString]
    rw [hdisplay]
    exact ⟨hfilled, hagain⟩
  have hfilled : ∀ engine, lookup' (programVariable engine) = some ((ports.health settings.engines s).pathOf engine) →
      lookup'.filled (programVariable engine) = some (settings.engines.program engine).display := by
    intro engine hset
    rw [hreported] at hset
    exact filled_eq_some_iff.2 ⟨hset, (hnames engine).1⟩
  have hread' : ReadFrom around lookup' settings := by
    refine hread.programs (fun name hname => ?_) fun engine => ?_
    · rcases hfed name with hsame | ⟨engine, hvariable, -⟩
      · exact hsame
      · exact absurd hvariable (hname engine)
    · rcases hfed (programVariable engine) with hsame | ⟨engine', hvariable, hset, hblank⟩
      · rw [filled, hsame]
        exact hread.program engine
      · obtain rfl : engine = engine' := programVariable_injective hvariable
        rw [hreported] at hblank
        rw [hfilled engine hset, Option.getD_some, (hnames engine).2 hblank]
  refine ⟨ofLookup_eq_ok_iff.2 hread', fun around' => ?_⟩
  obtain ⟨settings', hsettings'⟩ := exists_readFrom_iff.2 (exists_readFrom_iff.1 ⟨settings, hread'⟩)
  refine ⟨settings', ofLookup_eq_ok_iff.2 hsettings', fun engine hset hblank => ?_⟩
  rw [hreported] at hblank
  rw [hsettings'.program engine, hfilled engine hset, Option.getD_some, (hnames engine).2 hblank]

end Settings

/-- A setting comes to a path that is written out in full and names itself, and so the programs of the engines are at
such paths and a report of them may be fed back. -/
theorem Surroundings.locate_settled {around : Surroundings} (h : around.Legible) :
    (∀ raw, around.Settles raw) ∧
      ∀ lookup settings, Settings.ofLookup around lookup = .ok settings → Settings.Reloads around lookup settings :=
  ⟨h.settles, fun _ _ => Settings.reloads h⟩

/-- A path in a home that is relative itself, with blanks around it and dots and slashes that do not count, and the
programs of settings that name one engine by it. -/
theorem Surroundings.locate_settled_home :
    let around : Surroundings := { cwd := .ofString "/srv/app", home := some (.ofString "home/") }
    let lookup : Lookup := fun name => [("JQLITE_ENGINE_PATH", " ~/./bin//../jq/ ")].lookup name
    around.Legible ∧ around.locate " ~/./bin//../jq/ " = .ofString "/srv/app/home/bin/../jq" ∧
      (∀ around' : Surroundings, around'.locate "/srv/app/home/bin/../jq" = .ofString "/srv/app/home/bin/../jq") ∧
      ∃ settings, Settings.ofLookup around lookup = .ok settings ∧ (settings.engines.program .query).Plain := by
  intro around lookup
  have hlegible : around.Legible := by
    refine ⟨by decide, Text.encodes_ofString _, fun home hhome => ?_⟩
    obtain rfl : Path.ofString "home/" = home := by simpa [around] using hhome
    exact Text.encodes_ofString _
  have hplace : around.locate " ~/./bin//../jq/ " = .ofString "/srv/app/home/bin/../jq" := by decide
  obtain ⟨hsettles, hreloads⟩ := locate_settled hlegible
  obtain ⟨text, htext, hagain⟩ := (hsettles " ~/./bin//../jq/ ").again
  obtain rfl : "/srv/app/home/bin/../jq" = text :=
    Text.encode_injective (congrArg Path.bytes (hplace.symm.trans htext))
  have hend : ¬ Text.EndsBlank "/srv/app/home/bin/../jq" := by
    rintro ⟨c, hc, hblank⟩
    obtain rfl : 'q' = c := by simpa using hc
    exact absurd hblank (by decide)
  obtain ⟨settings, hsettings⟩ : ∃ settings, Settings.ofLookup around lookup = .ok settings := ⟨_, rfl⟩
  exact ⟨hlegible, hplace, fun around' => (hagain hend around').trans hplace, settings, hsettings,
    (hreloads lookup settings hsettings).plain .query⟩

end QueryGateway
