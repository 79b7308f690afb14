import QueryGateway.Http.Server
import QueryGateway.Proofs.Configuration
import QueryGateway.Proofs.Trimming

/-!
# Blanks around a setting

A value means the same with blanks around it: numbers, words, paths and lists of names are all read without them. So
lookups whose values are trimmed to the same come to settings that differ in the host at most, or to none alike
(`Settings.ofLookup_trimmed`). The host is the one value that is not trimmed: it is passed on with its blanks
(`Settings.ofLookup_padded`), and no address is found under it (`Settings.host_keeps_padding`).
-/

namespace QueryGateway

/-! ## Lists of names -/

namespace Text

variable {sep : Char}

/-- Characters in front of a text that do not cut it go to its first field. -/
theorem fields_append_left {front : List Char} (h : sep ∉ front) (cs : List Char) : ∃ field rest,
    fields sep cs = field :: rest ∧ fields sep (front ++ cs) = (front ++ field) :: rest := by
  induction front with
  | nil =>
    obtain ⟨field, rest, hcs, -⟩ := fields_cons sep sep cs
    exact ⟨field, rest, hcs, hcs⟩
  | cons c front ih =>
    rw [List.mem_cons, not_or] at h
    obtain ⟨field, rest, hcs, hfront⟩ := ih h.2
    obtain ⟨field', rest', hfields, hcons⟩ := fields_cons sep c (front ++ cs)
    rw [hfields] at hfront
    obtain ⟨hfield, hrest⟩ := List.cons.inj hfront
    exact ⟨field, rest, hcs, by rw [List.cons_append, hcons, if_neg (Ne.symm h.1), hfield, hrest, List.cons_append]⟩

/-- Characters at the end of a text that do not cut it go to its last field, which may be its first one too. -/
theorem fields_append_right {back : List Char} (h : sep ∉ back) (cs : List Char) : ∃ fore last,
    fields sep cs = fore ++ [last] ∧ fields sep (cs ++ back) = fore ++ [last ++ back] := by
  induction cs with
  | nil =>
    obtain ⟨field, rest, hnil, hback⟩ := fields_append_left h []
    obtain ⟨rfl, rfl⟩ := List.cons.inj (show [[]] = field :: rest from hnil)
    rw [List.append_nil] at hback
    exact ⟨[], [], rfl, hback⟩
  | cons c cs ih =>
    obtain ⟨fore, last, hcs, hback⟩ := ih
    obtain ⟨field, rest, hfields, hcons⟩ := fields_cons sep c cs
    obtain ⟨field', rest', hfields', hcons'⟩ := fields_cons sep c (cs ++ back)
    rw [hfields] at hcs
    rw [hfields'] at hback
    rw [List.cons_append, hcons, hcons']
    cases fore with
    | nil =>
      obtain ⟨hfield, hrest⟩ := List.cons.inj hcs
      obtain ⟨hfield', hrest'⟩ := List.cons.inj hback
      rw [hfield, hrest, hfield', hrest']
      split
      · exact ⟨[[]], last, rfl, rfl⟩
      · exact ⟨[], c :: last, rfl, rfl⟩
    | cons first fore =>
      obtain ⟨hfield, hrest⟩ := List.cons.inj hcs
      obtain ⟨hfield', hrest'⟩ := List.cons.inj hback
      rw [hfield, hrest, hfield', hrest']
      split
      · exact ⟨[] :: first :: fore, last, rfl, rfl⟩
      · exact ⟨(c :: first) :: fore, last, rfl, rfl⟩

/-- Blanks around a text are blanks around its fields. -/
theorem map_trimChars_fields {front back : List Char} (hsep : isBlank sep = false)
    (hfront : ∀ c ∈ front, isBlank c = true) (hback : ∀ c ∈ back, isBlank c = true) (cs : List Char) :
    (fields sep (front ++ cs ++ back)).map trimChars = (fields sep cs).map trimChars := by
  have hcut : ∀ blanks : List Char, (∀ c ∈ blanks, isBlank c = true) → sep ∉ blanks := by
    intro blanks hblanks hmem
    rw [hblanks sep hmem] at hsep
    cases hsep
  obtain ⟨fore, last, hleft, hright⟩ := fields_append_right (hcut back hback) (front ++ cs)
  obtain ⟨field, rest, hcs, hfield⟩ := fields_append_left (hcut front hfront) cs
  calc (fields sep (front ++ cs ++ back)).map trimChars
      = (fields sep (front ++ cs)).map trimChars := by
        rw [hright, hleft, List.map_append, List.map_append, List.map_singleton, List.map_singleton,
          trimChars_append_right hback]
    _ = (fields sep cs).map trimChars := by
        rw [hfield, hcs, List.map_cons, List.map_cons, trimChars_append_left hfront]

end Text

namespace Settings

/-- A list of names may have blanks around it. -/
theorem splitNames_padded {a b : String} (ha : Text.allBlank a = true) (hb : Text.allBlank b = true) (s : String) :
    splitNames (a ++ s ++ b) = splitNames s := by
  have hnames : ∀ s, splitNames s =
      (((Text.fields ',' s.toList).map Text.trimChars).map String.ofList).filter (· ≠ "") := by
    intro s
    simp only [splitNames, Text.trim, String.toList_ofList, List.map_map]
    rfl
  rw [hnames, hnames, String.toList_append, String.toList_append,
    Text.map_trimChars_fields (by decide) (Text.allBlank_iff.1 ha) (Text.allBlank_iff.1 hb)]

/-- Lists that are trimmed to the same hold the same names. -/
theorem splitNames_of_trim {raw raw' : String} (h : Text.trim raw' = Text.trim raw) :
    splitNames raw' = splitNames raw := by
  have htrimmed : ∀ s, splitNames s = splitNames (Text.trim s) := by
    intro s
    obtain ⟨a, b, ha, hb, hs⟩ := Text.exists_padding s
    rw [← splitNames_padded ha hb (Text.trim s), ← hs]
  rw [htrimmed raw', h, ← htrimmed raw]

end Settings

/-! ## What a value means -/

namespace Lookup

variable {α : Type} {Means : String → α → Prop}

/-- What a value means can be told from what trimming leaves of it. -/
def Trims (Means : String → α → Prop) : Prop :=
  ∀ raw raw', Text.trim raw' = Text.trim raw → ∀ a, Means raw' a ↔ Means raw a

/-- A number is read without the blanks around it. -/
theorem trims_number (bound : Nat) : Trims (Says bound) := by
  intro raw raw' htrim n
  rw [Says, Says, htrim]

theorem trims_time : Trims SaysTime := by
  intro raw raw' htrim time
  simp only [SaysTime, trims_number UInt64.size raw raw' htrim]

/-- So is a word. -/
theorem trims_name (name : α → String) : Trims (SaysName name) := by
  intro raw raw' htrim choice
  rw [SaysName, SaysName, htrim]

/-- So is what is computed from the trimmed value. -/
theorem trims_eq {f : String → α} (hf : ∀ raw raw', Text.trim raw' = Text.trim raw → f raw' = f raw) :
    Trims fun raw a => a = f raw := by
  intro raw raw' htrim a
  simp only [hf raw raw' htrim]

/-- Values that are trimmed to the same give the same. -/
theorem Gives.of_map_trim {value value' : Option String} {standard a : α} (hmeans : Trims Means)
    (hvalue : value'.map Text.trim = value.map Text.trim) (h : Gives (fun raw => value = some raw) standard Means a) :
    Gives (fun raw => value' = some raw) standard Means a := by
  cases value with
  | none =>
    rw [Option.map_none, Option.map_eq_none_iff] at hvalue
    rwa [hvalue]
  | some raw =>
    obtain ⟨raw', rfl, htrim⟩ := Option.map_eq_some_iff.1 hvalue
    simp only [Option.some.injEq, gives_value] at h ⊢
    exact (hmeans raw raw' htrim a).2 h

/-- Variables whose values are trimmed to the same give the same. -/
theorem Gives.trimmed {lookup lookup' : Lookup} {name : String} {standard a : α} (hmeans : Trims Means)
    (hvalue : (lookup'.filled name).map Text.trim = (lookup.filled name).map Text.trim)
    (h : Gives (lookup.Holds name) standard Means a) : Gives (lookup'.Holds name) standard Means a := by
  rw [holds_eq] at h ⊢
  exact h.of_map_trim hmeans hvalue

end Lookup

/-! ## Settings -/

/-- The place that a setting names is told from the trimmed setting. -/
theorem Surroundings.locate_of_trim (around : Surroundings) (raw raw' : String) (h : Text.trim raw' = Text.trim raw) :
    around.locate raw' = around.locate raw := by
  rw [locate, locate, h]

namespace Settings

open Lookup

variable {around : Surroundings} {lookup lookup' : Lookup} {settings : Settings}

/-- A place is read without the blanks around it, and so is a list of names. -/
theorem trims_locate (around : Surroundings) : Trims fun raw path => path = around.locate raw :=
  trims_eq around.locate_of_trim

theorem trims_some_locate (around : Surroundings) : Trims fun raw path => path = some (around.locate raw) :=
  trims_eq fun raw raw' htrim => congrArg some (around.locate_of_trim raw raw' htrim)

theorem trims_splitNames : Trims fun raw names => names = splitNames raw :=
  trims_eq fun _ _ => splitNames_of_trim

/-- Settings that are read from one lookup are read from another whose values are trimmed to the same, but for the
host. -/
theorem ReadFrom.trimmed (h : ReadFrom around lookup settings)
    (halike : ∀ name, (lookup'.filled name).map Text.trim = (lookup.filled name).map Text.trim) :
    ReadFrom around lookup' { settings with host := (lookup'.filled "JQLITE_HOST").getD standardHost } where
  host := gives_getD_iff.2 rfl
  port := by
    have hport := h.port
    rw [holdsFirst_eq] at hport ⊢
    refine hport.of_map_trim (trims_number _) ?_
    have hfirst := halike "JQLITE_PORT"
    cases hget : lookup.filled "JQLITE_PORT" with
    | none =>
      rw [hget, Option.map_none, Option.map_eq_none_iff] at hfirst
      rw [hfirst]
      exact halike "PORT"
    | some raw =>
      rw [hget, Option.map_some] at hfirst
      obtain ⟨raw', hget', htrim⟩ := Option.map_eq_some_iff.1 hfirst
      rw [hget']
      exact congrArg some htrim
  bodyLimit := h.bodyLimit.trimmed (trims_number _) (halike _)
  staticDirectory := h.staticDirectory.trimmed (trims_some_locate around) (halike _)
  timeout := h.timeout.trimmed trims_time (halike _)
  outputLimit := by
    refine h.outputLimit.trimmed (fun raw raw' htrim n => ?_) (halike _)
    rw [trims_number _ raw raw' htrim]
  overflow := h.overflow.trimmed (trims_name _) (halike _)
  query := h.query.trimmed (trims_locate around) (halike _)
  visualization := h.visualization.trimmed (trims_locate around) (halike _)
  inputs := h.inputs.trimmed (trims_locate around) (halike _)
  allowlist := h.allowlist.trimmed trims_splitNames (halike _)
  logFormat := h.logFormat.trimmed (trims_name _) (halike _)
  logDirectory := h.logDirectory.trimmed (trims_some_locate around) (halike _)

/-- Lookups whose values are trimmed to the same come to settings that differ in the host at most, or to none alike. -/
theorem ofLookup_trimmed (around : Surroundings)
    (halike : ∀ name, (lookup'.filled name).map Text.trim = (lookup.filled name).map Text.trim) :
    (ofLookup around lookup').toOption = (ofLookup around lookup).toOption.map fun settings =>
      { settings with host := (lookup'.filled "JQLITE_HOST").getD standardHost } := by
  cases hlookup : ofLookup around lookup with
  | ok settings =>
    rw [ofLookup_eq_ok_iff.2 ((ofLookup_eq_ok_iff.1 hlookup).trimmed halike)]
    rfl
  | error fault =>
    cases hlookup' : ofLookup around lookup' with
    | error fault' => rfl
    | ok settings =>
      have hread := ofLookup_eq_ok_iff.2 ((ofLookup_eq_ok_iff.1 hlookup').trimmed fun name => (halike name).symm)
      rw [hlookup] at hread
      cases hread

end Settings

/-! ## One padded value -/

/-- The variables with something put around the value of one of them. -/
def Lookup.padded (lookup : Lookup) (name a b : String) : Lookup :=
  fun other => if other = name then (lookup name).map (fun value => a ++ value ++ b) else lookup other

namespace Settings

open Lookup

section
variable {lookup : Lookup} {name a b value : String}

/-- A value that is held is so with blanks around it. -/
theorem holds_padded_self (hvalue : lookup.Holds name value) (ha : Text.allBlank a = true)
    (hb : Text.allBlank b = true) : (lookup.padded name a b).Holds name (a ++ value ++ b) := by
  unfold Lookup.Holds
  rw [Lookup.padded, if_pos rfl, hvalue.1, Text.allBlank_padded ha hb]
  exact ⟨rfl, hvalue.2⟩

/-- The other values are as they were. -/
theorem filled_padded_other {other : String} (h : other ≠ name) :
    (lookup.padded name a b).filled other = lookup.filled other := by
  rw [Lookup.filled, Lookup.filled, Lookup.padded, if_neg h]

/-- Blanks around a value that is not blank, whichever variable has it: there are settings exactly when there were, and
they are the same, but for the host if it is the host's value. -/
theorem ofLookup_padded (around : Surroundings) (hvalue : lookup.Holds name value)
    (ha : Text.allBlank a = true) (hb : Text.allBlank b = true) :
    (ofLookup around (lookup.padded name a b)).toOption = (ofLookup around lookup).toOption.map fun settings =>
      if name = "JQLITE_HOST" then { settings with host := a ++ value ++ b } else settings := by
  have hself := filled_eq_some_iff.2 (holds_padded_self hvalue ha hb)
  have halike : ∀ other,
      ((lookup.padded name a b).filled other).map Text.trim = (lookup.filled other).map Text.trim := by
    intro other
    by_cases hother : other = name
    · rw [hother, hself, filled_eq_some_iff.2 hvalue, Option.map_some, Option.map_some, Text.trim_padded ha hb]
    · rw [filled_padded_other hother]
  rw [ofLookup_trimmed around halike]
  by_cases hname : name = "JQLITE_HOST"
  · subst hname
    simp only [hself, if_true, Option.getD_some]
  · simp only [filled_padded_other (Ne.symm hname), if_neg hname]
    refine Option.map_congr fun settings hsettings => ?_
    have hread : ofLookup around lookup = .ok settings := by
      cases hlookup : ofLookup around lookup with
      | error fault => rw [hlookup] at hsettings; cases hsettings
      | ok found => rw [hlookup] at hsettings; exact congrArg Except.ok (Option.some.inj hsettings)
    have hhost := gives_getD_iff.1 (ofLookup_eq_ok_iff.1 hread).host
    rw [← hhost]

end

/-- A list of names with a tab in front and an ideographic space behind it. -/
theorem ofLookup_padded_allowlist :
    let around : Surroundings := { cwd := .ofString "/srv" }
    let lookup : Lookup := fun name => [("JQLITE_ENV_ALLOWLIST", "PATH, HOME,")].lookup name
    lookup.Holds "JQLITE_ENV_ALLOWLIST" "PATH, HOME," ∧
      Text.allBlank "\t" = true ∧ Text.allBlank "\u3000" = true ∧
      (ofLookup around (lookup.padded "JQLITE_ENV_ALLOWLIST" "\t" "\u3000")).toOption =
        (ofLookup around lookup).toOption := by
  intro around lookup
  have hholds : lookup.Holds "JQLITE_ENV_ALLOWLIST" "PATH, HOME," := ⟨rfl, by decide⟩
  refine ⟨hholds, by decide, by decide, ?_⟩
  rw [ofLookup_padded around hholds (by decide) (by decide)]
  simp

/-- A host with a blank in front of it is not the host without, and while a server listens under the one, it finds no
address under the other. -/
theorem host_keeps_padding :
    let around : Surroundings := { cwd := .ofString "/srv" }
    let lookup : Lookup := fun name => [("JQLITE_HOST", "127.0.0.1")].lookup name
    let network : Http.Network := { reachable := true }
    lookup.Holds "JQLITE_HOST" "127.0.0.1" ∧ Text.allBlank " " = true ∧ Text.allBlank "" = true ∧
      (ofLookup around lookup).toOption.map Settings.host = some "127.0.0.1" ∧
      (ofLookup around (lookup.padded "JQLITE_HOST" " " "")).toOption.map Settings.host = some " 127.0.0.1" ∧
      (network.bind "127.0.0.1" 3000).toOption.isSome = true ∧
      network.bind " 127.0.0.1" 3000 = .error (.lookup .unknown) := by
  decide

end Settings
end QueryGateway
