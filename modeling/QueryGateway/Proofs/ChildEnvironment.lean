import QueryGateway.Proofs.Configuration
import QueryGateway.Proofs.StrictDecoding
import QueryGateway.Shell.Host
import Mathlib.Data.List.Nodup

/-!
# What an engine gets to see of the environment

An engine is started with the variables of the gateway that are text and whose names are listed, as they are and with no
others (`Shell.Host.childEnvironment_eq_filter`). The list is what stands between the commas of its setting, without
the blanks around it, or the standard list when the setting is blank (`Settings.Passes`). Together they say what every
engine sees (`Shell.Host.childEnvironment_exact`).
-/

namespace QueryGateway

/-! ## The list of names -/

/-- The fields of a text are the parts that a list is split into. -/
theorem Text.fields_eq_splitOn (sep : Char) (cs : List Char) : fields sep cs = cs.splitOn sep := by
  induction cs with
  | nil => rfl
  | cons c cs ih =>
    obtain ⟨field, rest, hcs, hcons⟩ := fields_cons sep c cs
    rw [hcons, List.splitOn, List.splitOnP_cons_eq_if_modifyHead, ← List.splitOn, ← ih, hcs]
    by_cases hc : c = sep
    · simp [hc]
    · simp [hc]

namespace Settings

/-- A list of names lists a name: it is what stands between two commas without the blanks around it, and not nothing. -/
def Lists (raw name : String) : Prop :=
  name ≠ "" ∧ ∃ piece ∈ raw.toList.splitOn ',', name = Text.trim (String.ofList piece)

/-- A name is passed on: the list that is configured lists it, or none is and it is a standard name. -/
def Passes (lookup : Lookup) (name : String) : Prop :=
  (∃ raw, lookup.Holds "JQLITE_ENV_ALLOWLIST" raw ∧ Lists raw name) ∨
    (∀ raw, ¬lookup.Holds "JQLITE_ENV_ALLOWLIST" raw) ∧ name ∈ Environment.standardAllowlist

/-- The names of a list are those that it lists. -/
theorem mem_splitNames_iff {raw name : String} : name ∈ splitNames raw ↔ Lists raw name := by
  rw [splitNames, List.mem_filter, List.mem_map, Text.fields_eq_splitOn, Lists, decide_eq_true_eq, and_comm]
  simp only [eq_comm]

/-- The names in the settings are those that are passed on. -/
theorem mem_allowlist_iff {around : Surroundings} {lookup : Lookup} {settings : Settings}
    (h : ofLookup around lookup = .ok settings) (name : String) :
    name ∈ settings.allowlist ↔ Passes lookup name := by
  unfold Passes
  rcases (ofLookup_eq_ok_iff.1 h).allowlist with ⟨raw, hraw, hnames⟩ | ⟨hnone, hstandard⟩
  · rw [hnames, mem_splitNames_iff]
    constructor
    · intro hlists
      exact .inl ⟨raw, hraw, hlists⟩
    · rintro (⟨raw', hraw', hlists⟩ | ⟨hnone, -⟩)
      · rwa [hraw.unique hraw']
      · exact absurd hraw (hnone raw)
  · rw [hstandard]
    constructor
    · intro hmem
      exact .inr ⟨hnone, hmem⟩
    · rintro (⟨raw, hraw, -⟩ | ⟨-, hmem⟩)
      · exact absurd hraw (hnone raw)
      · exact hmem

end Settings

/-! ## The variables that are passed -/

namespace Environment

/-- Whether a variable is text and its name is listed. -/
def passed (allowlist : List String) (entry : Bytes × Bytes) : Bool :=
  (texts? entry).any fun text => allowlist.contains text.1

/-- A variable is text exactly when its name and its value are the bytes of texts. -/
theorem texts?_eq_some_iff {entry : Bytes × Bytes} {name value : String} :
    texts? entry = some (name, value) ↔ entry = (Text.encode name, Text.encode value) := by
  obtain ⟨n, v⟩ := entry
  rw [Prod.mk.injEq, ← Text.decode?_eq_some_iff, ← Text.decode?_eq_some_iff]
  unfold texts?
  cases Text.decode? n with
  | none => simp
  | some name' =>
    cases Text.decode? v with
    | none => simp
    | some value' => simp

/-- A variable is passed exactly when it is text and its name is listed. -/
theorem passed_iff {allowlist : List String} {entry : Bytes × Bytes} :
    passed allowlist entry = true ↔
      ∃ name value : String, entry = (Text.encode name, Text.encode value) ∧ name ∈ allowlist := by
  simp only [passed, Option.any_eq_true, Prod.exists, texts?_eq_some_iff, List.contains_iff_mem]

/-- A text is on the list, or it is left out. -/
theorem allowed_cons (allowlist : List String) (text : String × String) (bindings : List (String × String)) :
    allowed allowlist (text :: bindings) =
      if allowlist.contains text.1 then text :: allowed allowlist bindings else allowed allowlist bindings :=
  List.filter_cons

/-- The variables of a child, as byte strings again, are those of its parent that are passed. -/
theorem map_forChild (allowlist : List String) (environment : Environment) :
    (forChild allowlist environment).map (Prod.map Text.encode Text.encode) =
      environment.filter (passed allowlist) := by
  unfold forChild
  induction environment with
  | nil => rfl
  | cons entry environment ih =>
    rw [List.filter_cons]
    cases htexts : texts? entry with
    | none =>
      have hpassed : passed allowlist entry = false := by rw [passed, htexts, Option.any_none]
      rw [List.filterMap_cons_none htexts, ih, hpassed, if_neg nofun]
    | some text =>
      have hpassed : passed allowlist entry = allowlist.contains text.1 := by rw [passed, htexts, Option.any_some]
      have hentry : entry = Prod.map Text.encode Text.encode text := texts?_eq_some_iff.1 htexts
      rw [List.filterMap_cons_some htexts, allowed_cons, hpassed]
      by_cases hlisted : allowlist.contains text.1 = true
      · rw [if_pos hlisted, if_pos hlisted, List.map_cons, ih, hentry]
      · rw [if_neg hlisted, if_neg hlisted, ih]

/-- Variables that are not passed may as well not be there. -/
theorem forChild_filter (allowlist : List String) (environment : Environment) :
    forChild allowlist (environment.filter (passed allowlist)) = forChild allowlist environment := by
  have hinjective : Function.Injective (Prod.map Text.encode Text.encode) :=
    Text.encode_injective.prodMap Text.encode_injective
  refine (List.map_inj_right fun _ _ h => hinjective h).1 ?_
  rw [map_forChild, map_forChild, List.filter_filter]
  simp only [Bool.and_self]

end Environment

/-! ## What an engine sees -/

namespace Shell

/-- Octets are bytes again. -/
theorem Octets.toBytes_ofBytes (bs : Bytes) : toBytes (ofBytes bs) = bs := by
  have hbyte : ∀ b : UInt8, UInt8.ofNat (Char.ofNat b.toNat).toNat = b := by
    intro b
    have hvalid : b.toNat.isValidChar := .inl (Nat.lt_trans b.toNat_lt (by decide))
    rw [Char.toNat, Text.val_ofNat hvalid, UInt8.ofNat_toNat]
  rw [toBytes, ofBytes, List.map_map]
  exact (List.map_congr_left fun b _ => hbyte b).trans (List.map_id bs)

namespace Host

/-- The environment that the process sees which a run of a call starts on a host. -/
def childEnvironment (host : Host) (call : Call) (tree : Tree) : Environment :=
  (State.environment (host.child call tree).shell).map (Prod.map Octets.toBytes Octets.toBytes)

/-- A process sees all the variables that it is made with. -/
theorem environment_process (bindings : List (String × String)) (call : Call) (tree : Tree) :
    State.environment (process bindings call tree).shell = bindings.map (Prod.map Octets.ofString Octets.ofString) := by
  simp only [State.environment, process, ← List.map_reverse, List.reverse_reverse, List.filterMap_map]
  exact congrFun (List.filterMap_eq_map (f := Prod.map Octets.ofString Octets.ofString)) bindings

/-- An engine sees the variables of the gateway that are passed, as they are. -/
theorem childEnvironment_eq_filter (host : Host) (call : Call) (tree : Tree) :
    host.childEnvironment call tree = host.environment.filter (Environment.passed host.allowlist) := by
  rw [childEnvironment, child, environment_process, List.map_map, passedOn, ← Environment.map_forChild]
  refine List.map_congr_left fun text _ => ?_
  simp only [Function.comp, Prod.map, Octets.ofString, Octets.toBytes_ofBytes]

/-- A run cannot tell whether variables that are not passed are there. -/
theorem run_filter (allowlist : List String) (environment : Environment) (call : Call) (tree : Tree) :
    run ⟨allowlist, environment.filter (Environment.passed allowlist)⟩ call tree =
      run ⟨allowlist, environment⟩ call tree := by
  simp only [run, child, passedOn, Environment.forChild_filter]

/-- What engines see of the environment under settings that are read from variables. -/
structure Exact (lookup : Lookup) (allowlist : List String) : Prop where
  /-- They see a variable exactly when it is there, is text, and its name is passed on. -/
  sees : ∀ (environment : Environment) (call : Call) (tree : Tree) (name value : Bytes),
    (name, value) ∈ childEnvironment ⟨allowlist, environment⟩ call tree ↔
      (name, value) ∈ environment ∧
        ∃ n v : String, name = Text.encode n ∧ value = Text.encode v ∧ Settings.Passes lookup n
  /-- No name is there twice if none was. -/
  distinct : ∀ (environment : Environment) (call : Call) (tree : Tree), (environment.map Prod.fst).Nodup →
    ((childEnvironment ⟨allowlist, environment⟩ call tree).map Prod.fst).Nodup
  /-- Environments that agree on the names that are passed on look the same. -/
  alike : ∀ (environment environment' : Environment) (call call' : Call) (tree tree' : Tree),
    (environment.map Prod.fst).Nodup → (environment'.map Prod.fst).Nodup →
    (∀ n, Settings.Passes lookup n → ∀ value,
      (Text.encode n, value) ∈ environment ↔ (Text.encode n, value) ∈ environment') →
    (childEnvironment ⟨allowlist, environment⟩ call tree).Perm
      (childEnvironment ⟨allowlist, environment'⟩ call' tree')
  /-- All other variables may as well not be there: runs are the same without them. -/
  idle : ∀ (environment : Environment) (call : Call) (tree : Tree), ∃ passed : Environment,
    (∀ entry, entry ∈ passed ↔ entry ∈ environment ∧
      ∃ n v : String, entry = (Text.encode n, Text.encode v) ∧ Settings.Passes lookup n) ∧
    passed.Sublist environment ∧ run ⟨allowlist, passed⟩ call tree = run ⟨allowlist, environment⟩ call tree

/-- Every engine sees the variables whose names are on the list that is configured, as they are, and no others. -/
theorem childEnvironment_exact {around : Surroundings} {lookup : Lookup} {settings : Settings}
    (h : Settings.ofLookup around lookup = .ok settings) : Exact lookup settings.allowlist := by
  have hpassed : ∀ entry, Environment.passed settings.allowlist entry = true ↔
      ∃ n v : String, entry = (Text.encode n, Text.encode v) ∧ Settings.Passes lookup n := by
    intro entry
    simp only [Environment.passed_iff, Settings.mem_allowlist_iff h]
  have hsees : ∀ (environment : Environment) (call : Call) (tree : Tree) (name value : Bytes),
      (name, value) ∈ childEnvironment ⟨settings.allowlist, environment⟩ call tree ↔
        (name, value) ∈ environment ∧
          ∃ n v : String, name = Text.encode n ∧ value = Text.encode v ∧ Settings.Passes lookup n := by
    intro environment call tree name value
    rw [childEnvironment_eq_filter, List.mem_filter, hpassed]
    simp only [Prod.mk.injEq, and_assoc]
  have hdistinct : ∀ (environment : Environment) (call : Call) (tree : Tree), (environment.map Prod.fst).Nodup →
      ((childEnvironment ⟨settings.allowlist, environment⟩ call tree).map Prod.fst).Nodup := by
    intro environment call tree hnodup
    rw [childEnvironment_eq_filter]
    exact hnodup.sublist (List.filter_sublist.map Prod.fst)
  refine ⟨hsees, hdistinct, ?_, ?_⟩
  · intro environment environment' call call' tree tree' hnodup hnodup' hagree
    have hchild := List.Nodup.of_map _ (hdistinct environment call tree hnodup)
    have hchild' := List.Nodup.of_map _ (hdistinct environment' call' tree' hnodup')
    refine (List.perm_ext_iff_of_nodup hchild hchild').2 ?_
    rintro ⟨name, value⟩
    rw [hsees, hsees]
    constructor
    · rintro ⟨hmem, n, v, rfl, rfl, hpasses⟩
      exact ⟨(hagree n hpasses _).1 hmem, n, v, rfl, rfl, hpasses⟩
    · rintro ⟨hmem, n, v, rfl, rfl, hpasses⟩
      exact ⟨(hagree n hpasses _).2 hmem, n, v, rfl, rfl, hpasses⟩
  · intro environment call tree
    refine ⟨environment.filter (Environment.passed settings.allowlist), fun entry => ?_, List.filter_sublist,
      run_filter settings.allowlist environment call tree⟩
    rw [List.mem_filter, hpassed]

/-- A list with an empty name and blanks in it. -/
theorem childEnvironment_exact_padded :
    let around : Surroundings := { cwd := .ofString "/srv" }
    let lookup : Lookup := fun name => [("JQLITE_ENV_ALLOWLIST", " PATH, ,LANG,")].lookup name
    let settings := Settings.assembled around lookup.filled 3000 10485760 .standard .pretty
    Settings.ofLookup around lookup = .ok settings ∧ settings.allowlist = ["PATH", "LANG"] ∧
      Exact lookup settings.allowlist := by
  intro around lookup settings
  have h : Settings.ofLookup around lookup = .ok settings := by rfl
  exact ⟨h, by rfl, childEnvironment_exact h⟩

end Host
end Shell
end QueryGateway
