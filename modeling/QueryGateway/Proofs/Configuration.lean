import QueryGateway.Config.Settings

/-!
# What the settings are made of

Each setting is what its own variable says, or its default when that variable is blank (`Settings.ReadFrom`). There are
settings exactly when every variable that has to say something says it (`Settings.Usable`): nothing that cannot be used
is passed over. Blank values count for nothing, and so does the second variable for the port when the first one is
filled; lookups that differ in nothing else come to the same settings or to the same error (`Settings.ofLookup_spec`).
-/

namespace QueryGateway

/-! ## Numbers -/

namespace Text

/-- A text denotes a number in decimal digits, of which there is at least one, behind a plus or nothing. -/
def Denotes (s : String) (n : Nat) : Prop :=
  ∃ digits : List Char, digits ≠ [] ∧ (∀ c ∈ digits, c.isDigit = true) ∧
    (s.toList = digits ∨ s.toList = '+' :: digits) ∧ n = Nat.ofDigitChars 10 digits 0

/-- Digits are read to the number that they make behind the value so far, if that number is below the bound. A value that
is past the bound stays so, since more digits never make a smaller number. -/
theorem readDigits_eq_ok_iff {bound m : Nat} (n : Nat) (cs : List Char) :
    readDigits bound n cs = .ok m ↔
      (∀ c ∈ cs, c.isDigit = true) ∧ m = Nat.ofDigitChars 10 cs n ∧ (cs ≠ [] → m < bound) := by
  induction cs generalizing n with
  | nil =>
    rw [readDigits, Nat.ofDigitChars_nil, Except.ok.injEq]
    exact ⟨fun h => ⟨nofun, h.symm, fun hne => absurd rfl hne⟩, fun h => h.2.1.symm⟩
  | cons c cs ih =>
    rw [readDigits, Nat.ofDigitChars_cons, Nat.mul_comm 10 n]
    by_cases hdigit : c.isDigit = true
    · by_cases hnext : n * 10 + (c.toNat - '0'.toNat) < bound
      · simp only [hdigit, hnext, if_true, ih, List.mem_cons, forall_eq_or_imp, true_and]
        refine and_congr_right fun _ => and_congr_right fun hm => ?_
        cases cs with
        | nil =>
          rw [hm, Nat.ofDigitChars_nil]
          exact ⟨fun _ _ => hnext, fun _ hne => absurd rfl hne⟩
        | cons d ds => simp
      · have hle : n * 10 + (c.toNat - '0'.toNat) ≤ Nat.ofDigitChars 10 cs (n * 10 + (c.toNat - '0'.toNat)) := by
          rw [Nat.ofDigitChars_eq_ofDigitChars_zero]
          exact Nat.le_trans (Nat.le_mul_of_pos_left _ (Nat.pow_pos (by decide))) (Nat.le_add_right _ _)
        simp only [hdigit, hnext, if_true, if_false, reduceCtorEq, false_iff]
        rintro ⟨-, rfl, hm⟩
        exact hnext (Nat.lt_of_le_of_lt hle (hm nofun))
    · simp [hdigit]

/-- A number is read from a text exactly when the text denotes it and it is below the bound. -/
theorem readNatural_eq_ok_iff {bound n : Nat} (s : String) :
    readNatural bound s = .ok n ↔ Denotes s n ∧ n < bound := by
  have hplus : ¬ '+'.isDigit = true := by decide
  have hread : ∀ digits : List Char, digits ≠ [] →
      (readDigits bound 0 digits = .ok n ↔
        (∀ c ∈ digits, c.isDigit = true) ∧ n = Nat.ofDigitChars 10 digits 0 ∧ n < bound) := fun digits hne => by
    rw [readDigits_eq_ok_iff, forall_prop_of_true hne]
  unfold readNatural Denotes
  split
  next hs =>
    simp only [hs, reduceCtorEq, false_iff]
    rintro ⟨⟨digits, hne, -, hdigits | hdigits, -⟩, -⟩
    · exact hne hdigits.symm
    · nomatch hdigits
  next hs =>
    simp only [hs, reduceCtorEq, false_iff]
    rintro ⟨⟨digits, hne, hall, rfl | hdigits, -⟩, -⟩
    · exact hplus (hall _ (List.mem_singleton_self _))
    · exact hne (List.cons.inj hdigits).2.symm
  next cs hsingle hs =>
    have hne : cs ≠ [] := hsingle
    rw [hread cs hne]
    constructor
    · rintro ⟨hall, hn, hlt⟩
      exact ⟨⟨cs, hne, hall, .inr hs, hn⟩, hlt⟩
    · rintro ⟨⟨digits, -, hall, hdigits | hdigits, hn⟩, hlt⟩
      · rw [hs] at hdigits
        subst hdigits
        exact absurd (hall _ List.mem_cons_self) hplus
      · rw [hs] at hdigits
        obtain rfl := (List.cons.inj hdigits).2
        exact ⟨hall, hn, hlt⟩
  next hnil hsingle hcons =>
    have hne : s.toList ≠ [] := hnil
    rw [hread _ hne]
    constructor
    · rintro ⟨hall, hn, hlt⟩
      exact ⟨⟨s.toList, hne, hall, .inl rfl, hn⟩, hlt⟩
    · rintro ⟨⟨digits, -, hall, rfl | hdigits, hn⟩, hlt⟩
      · exact ⟨hall, hn, hlt⟩
      · exact absurd hdigits (hcons digits)

end Text

/-! ## Words -/

/-- The choice with a name is the one that has it. -/
theorem Overflow.named?_eq_some_iff {word : String} {choice : Overflow} :
    named? word = some choice ↔ word = choice.name := by
  constructor
  · intro h
    simpa [eq_comm] using List.find?_some h
  · rintro rfl
    cases choice <;> rfl

/-- The choice that a setting names is the one whose name the setting is, up to case and blanks around it. -/
theorem Overflow.ofSetting_eq_ok_iff {raw : String} {choice : Overflow} :
    ofSetting raw = .ok choice ↔ Text.lowerAscii (Text.trim raw) = choice.name := by
  rw [← named?_eq_some_iff]
  simp only [ofSetting]
  cases named? (Text.lowerAscii (Text.trim raw)) with
  | none => simp
  | some found => simp

/-- The name of a form of the log. -/
def LogFormat.name : LogFormat → String
  | pretty => "pretty"
  | json => "json"

/-- The form of the log that a setting names is the one whose name the setting is, up to case and blanks around it. -/
theorem LogFormat.ofSetting_eq_ok_iff {raw : String} {form : LogFormat} :
    ofSetting raw = .ok form ↔ Text.lowerAscii (Text.trim raw) = form.name := by
  simp only [ofSetting]
  generalize Text.lowerAscii (Text.trim raw) = word
  by_cases hpretty : word = "pretty"
  · subst hpretty
    cases form <;> simp [name]
  · by_cases hjson : word = "json"
    · subst hjson
      cases form <;> simp [name]
    · cases form <;> simp [name, hpretty, hjson]

/-- Bounds can be used when they let a run take some time and print something. -/
theorem Bounds.validate_eq_ok_iff {bounds : Bounds} :
    bounds.validate = .ok () ↔ bounds.timeout.nanoseconds ≠ 0 ∧ bounds.outputLimit ≠ 0 := by
  unfold validate
  by_cases htimeout : bounds.timeout.nanoseconds = 0
  · simp [htimeout]
  · by_cases houtput : bounds.outputLimit = 0
    · simp [htimeout, houtput]
    · simp [htimeout, houtput]

/-! ## What a variable gives -/

namespace Lookup

variable {α : Type}

/-- A variable holds a value: it is set to it, and the value is not blank. -/
def Holds (lookup : Lookup) (name raw : String) : Prop :=
  lookup name = some raw ∧ Text.allBlank raw = false
deriving Decidable

/-- The first of two variables that holds a value holds this one. -/
def HoldsFirst (lookup : Lookup) (name other raw : String) : Prop :=
  lookup.Holds name raw ∨ (∀ value, ¬lookup.Holds name value) ∧ lookup.Holds other raw

/-- What a setting is: what the value that is held means, or the default if none is held. -/
def Gives (Held : String → Prop) (standard : α) (Means : String → α → Prop) (a : α) : Prop :=
  (∃ raw, Held raw ∧ Means raw a) ∨ (∀ raw, ¬Held raw) ∧ a = standard

/-- A value says a number below a bound, with blanks around it or without. -/
def Says (bound : Nat) (raw : String) (n : Nat) : Prop :=
  Text.Denotes (Text.trim raw) n ∧ n < bound

/-- A value says some number of milliseconds below 2^64. -/
def SaysTime (raw : String) (time : Span) : Prop :=
  ∃ n, (Says UInt64.size raw n ∧ n ≠ 0) ∧ time = .ofMilliseconds n

/-- A value says a choice by its name, in letters of any case and with blanks around it or without. -/
def SaysName (name : α → String) (raw : String) (choice : α) : Prop :=
  Text.lowerAscii (Text.trim raw) = name choice

section
variable {lookup : Lookup} {name other raw : String}

/-- What is looked up, blank values aside, is what the variable holds. -/
theorem filled_eq_some_iff : lookup.filled name = some raw ↔ lookup.Holds name raw := by
  unfold filled Holds
  rw [Option.filter_eq_some_iff, Bool.not_eq_true']

theorem filled_eq_none_iff : lookup.filled name = none ↔ ∀ raw, ¬lookup.Holds name raw := by
  constructor
  · intro hnone raw hraw
    rw [filled_eq_some_iff.2 hraw] at hnone
    cases hnone
  · intro hnone
    cases hfilled : lookup.filled name with
    | none => rfl
    | some raw => exact absurd (filled_eq_some_iff.1 hfilled) (hnone raw)

/-- What is looked up under one name, or else under another, is what the first of them that holds a value holds. -/
theorem orElse_filled_eq_some_iff :
    (lookup.filled name <|> lookup.filled other) = some raw ↔ lookup.HoldsFirst name other raw := by
  unfold HoldsFirst
  rw [← filled_eq_none_iff, ← filled_eq_some_iff, ← filled_eq_some_iff]
  cases lookup.filled name <;> simp

/-- A variable holds no more than one value. -/
theorem Holds.unique {raw' : String} (h : lookup.Holds name raw) (h' : lookup.Holds name raw') : raw = raw' := by
  rw [← filled_eq_some_iff] at h h'
  exact Option.some.inj (h.symm.trans h')

theorem HoldsFirst.unique {raw' : String} (h : lookup.HoldsFirst name other raw)
    (h' : lookup.HoldsFirst name other raw') : raw = raw' := by
  rw [← orElse_filled_eq_some_iff] at h h'
  exact Option.some.inj (h.symm.trans h')

theorem holds_eq (lookup : Lookup) (name : String) :
    lookup.Holds name = fun raw => lookup.filled name = some raw := by
  funext raw
  exact propext filled_eq_some_iff.symm

theorem holdsFirst_eq (lookup : Lookup) (name other : String) :
    lookup.HoldsFirst name other = fun raw => (lookup.filled name <|> lookup.filled other) = some raw := by
  funext raw
  exact propext orElse_filled_eq_some_iff.symm

end

section
variable {lookup : Lookup} {name : String} {value : Option String} {standard : α} {Means : String → α → Prop} {a : α}

/-- With a value at hand a setting is what it means. -/
@[simp] theorem gives_value {raw : String} : Gives (fun value => raw = value) standard Means a ↔ Means raw a := by
  simp [Gives]

/-- With no value at hand a setting is its default. -/
@[simp] theorem gives_no_value : Gives (fun _ => False) standard Means a ↔ a = standard := by
  simp [Gives]

/-- Something is given exactly when the value that is held means something, where no more than one value is held. -/
theorem exists_gives_iff {Held : String → Prop} (hunique : ∀ raw raw', Held raw → Held raw' → raw = raw') :
    (∃ a, Gives Held standard Means a) ↔ ∀ raw, Held raw → ∃ a, Means raw a := by
  constructor
  · rintro ⟨a, ⟨raw, hraw, hmeans⟩ | ⟨hnone, -⟩⟩ raw' hraw'
    · rw [hunique raw' raw hraw' hraw]
      exact ⟨a, hmeans⟩
    · exact absurd hraw' (hnone raw')
  · intro h
    by_cases hheld : ∃ raw, Held raw
    · obtain ⟨raw, hraw⟩ := hheld
      obtain ⟨a, hmeans⟩ := h raw hraw
      exact ⟨a, .inl ⟨raw, hraw, hmeans⟩⟩
    · exact ⟨standard, .inr ⟨not_exists.1 hheld, rfl⟩⟩

/-- A variable whose every value means something gives that or its default. -/
theorem gives_eq_iff {f : String → α} :
    Gives (lookup.Holds name) standard (fun raw a => a = f raw) a ↔ a = ((lookup.filled name).map f).getD standard := by
  rw [holds_eq]
  cases lookup.filled name <;> simp

/-- A variable that is taken as it is gives its value or its default. -/
theorem gives_getD_iff {standard text : String} :
    Gives (lookup.Holds name) standard (fun raw text => text = raw) text ↔ text = (lookup.filled name).getD standard :=
  (gives_eq_iff (f := id)).trans (by rw [Option.map_id_fun, id])

/-- A variable whose default is a value as well. -/
theorem gives_apply_iff {f : String → α} {text : String} :
    Gives (lookup.Holds name) (f text) (fun raw a => a = f raw) a ↔ a = f ((lookup.filled name).getD text) :=
  gives_eq_iff.trans (by rw [Option.getD_map])

/-- A variable that gives something whether or not it has a default. -/
theorem gives_some_iff {f : String → α} {a : Option α} :
    Gives (lookup.Holds name) (some standard) (fun raw a => a = some (f raw)) a ↔
      a = some (((lookup.filled name).map f).getD standard) :=
  (gives_eq_iff (f := fun raw => some (f raw))).trans (by cases lookup.filled name <;> rfl)

/-- A variable without a default. -/
theorem gives_none_iff {f : String → α} {a : Option α} :
    Gives (lookup.Holds name) none (fun raw a => a = some (f raw)) a ↔ a = (lookup.filled name).map f :=
  (gives_eq_iff (f := fun raw => some (f raw))).trans (by cases lookup.filled name <;> rfl)

/-- What holds of the default may as well be asked of what the value means. -/
theorem gives_and_iff {Held : String → Prop} {P : α → Prop} (hstandard : P standard) :
    Gives Held standard Means a ∧ P a ↔ Gives Held standard (fun raw a => Means raw a ∧ P a) a := by
  constructor
  · rintro ⟨⟨raw, hraw, hmeans⟩ | hnone, ha⟩
    · exact .inl ⟨raw, hraw, hmeans, ha⟩
    · exact .inr hnone
  · rintro (⟨raw, hraw, hmeans, ha⟩ | ⟨hnone, rfl⟩)
    · exact ⟨.inl ⟨raw, hraw, hmeans⟩, ha⟩
    · exact ⟨.inr ⟨hnone, rfl⟩, hstandard⟩

/-- Telling of a flaw in other words makes no value of it. -/
theorem mapError_eq_ok_iff {ε ε' : Type} {x : Except ε α} {f : ε → ε'} : x.mapError f = .ok a ↔ x = .ok a := by
  cases x with
  | error e =>
    constructor
    · intro h
      cases h
    · intro h
      cases h
  | ok b =>
    constructor
    · intro h
      cases h
      rfl
    · intro h
      cases h
      rfl

/-- The number of a variable is read exactly when the variable gives it. -/
theorem number_eq_ok_iff {name : String} {bound standard n : Nat} :
    number name bound value standard = .ok n ↔ Gives (fun raw => value = some raw) standard (Says bound) n := by
  cases value with
  | none => simp [number, eq_comm]
  | some raw => simp only [Option.some.injEq, gives_value, Says, ← Text.readNatural_eq_ok_iff, number, mapError_eq_ok_iff]

end
end Lookup

/-! ## Settings -/

namespace Settings

open Lookup

/-- What is read in two steps is read exactly when each step is. -/
theorem bind_eq_ok_iff {ε α β : Type} {x : Except ε α} {f : α → Except ε β} {b : β} :
    (x >>= f) = .ok b ↔ ∃ a, x = .ok a ∧ f a = .ok b := by
  cases x with
  | error e => simp [bind, Except.bind]
  | ok a => simp [bind, Except.bind]

/-- The settings are read from the variables: each is what its own variable gives. -/
structure ReadFrom (around : Surroundings) (lookup : Lookup) (settings : Settings) : Prop where
  host : Gives (lookup.Holds "JQLITE_HOST") standardHost (fun raw host => host = raw) settings.host
  port : Gives (lookup.HoldsFirst "JQLITE_PORT" "PORT") standardPort (Says UInt16.size) settings.port
  bodyLimit : Gives (lookup.Holds "JQLITE_MAX_BODY_BYTES") standardBodyLimit (Says UInt64.size) settings.bodyLimit
  staticDirectory : Gives (lookup.Holds "JQLITE_STATIC_DIR") (some (.ofString standardStaticDirectory))
    (fun raw directory => directory = some (around.locate raw)) settings.staticDirectory
  timeout : Gives (lookup.Holds "JQLITE_TIMEOUT_MS") Bounds.standard.timeout SaysTime settings.engines.bounds.timeout
  outputLimit : Gives (lookup.Holds "JQLITE_MAX_OUTPUT_BYTES") Bounds.standard.outputLimit
    (fun raw n => Says UInt64.size raw n ∧ n ≠ 0) settings.engines.bounds.outputLimit
  overflow : Gives (lookup.Holds "JQLITE_OVERFLOW_POLICY") Bounds.standard.overflow (SaysName Overflow.name)
    settings.engines.bounds.overflow
  query : Gives (lookup.Holds "JQLITE_ENGINE_PATH") (around.locate "./jqlite") (fun raw path => path = around.locate raw)
    settings.engines.query
  visualization : Gives (lookup.Holds "JQLITE_VIZ_ENGINE_PATH") (around.locate "./jqlite_viz")
    (fun raw path => path = around.locate raw) settings.engines.visualization
  inputs : Gives (lookup.Holds "JQLITE_INPUT_DIR")
    (around.temporaryDirectory.join (.ofString InputDirectory.standardName)) (fun raw path => path = around.locate raw)
    settings.inputs.path
  allowlist : Gives (lookup.Holds "JQLITE_ENV_ALLOWLIST") Environment.standardAllowlist
    (fun raw names => names = splitNames raw) settings.allowlist
  logFormat : Gives (lookup.Holds "JQLITE_LOG_FORMAT") LogFormat.pretty (SaysName LogFormat.name)
    settings.logFormat
  logDirectory : Gives (lookup.Holds "JQLITE_LOG_DIR") none (fun raw directory => directory = some (around.locate raw))
    settings.logDirectory

/-- The variables can be used: each that has to say a number or a word says one, if it holds a value. -/
structure Usable (lookup : Lookup) : Prop where
  port : ∀ raw, lookup.HoldsFirst "JQLITE_PORT" "PORT" raw → ∃ n, Says UInt16.size raw n
  bodyLimit : ∀ raw, lookup.Holds "JQLITE_MAX_BODY_BYTES" raw → ∃ n, Says UInt64.size raw n
  timeout : ∀ raw, lookup.Holds "JQLITE_TIMEOUT_MS" raw → ∃ n, Says UInt64.size raw n ∧ n ≠ 0
  outputLimit : ∀ raw, lookup.Holds "JQLITE_MAX_OUTPUT_BYTES" raw → ∃ n, Says UInt64.size raw n ∧ n ≠ 0
  overflow : ∀ raw, lookup.Holds "JQLITE_OVERFLOW_POLICY" raw →
    Text.lowerAscii (Text.trim raw) = "abort" ∨ Text.lowerAscii (Text.trim raw) = "truncate"
  logFormat : ∀ raw, lookup.Holds "JQLITE_LOG_FORMAT" raw →
    Text.lowerAscii (Text.trim raw) = "pretty" ∨ Text.lowerAscii (Text.trim raw) = "json"

variable {around : Surroundings} {get lookup : Lookup}

/-- The time of a run is read exactly when its variable gives it; it may still be none at all. -/
theorem readTimeout_eq_ok_iff {timeout : Span} :
    readTimeout get = .ok timeout ↔ Gives (fun raw => get "JQLITE_TIMEOUT_MS" = some raw) Bounds.standard.timeout
      (fun raw timeout => ∃ n, Says UInt64.size raw n ∧ timeout = .ofMilliseconds n) timeout := by
  unfold readTimeout
  cases get "JQLITE_TIMEOUT_MS" with
  | none => simp [eq_comm]
  | some raw =>
    have hmeans : ∀ n, number "JQLITE_TIMEOUT_MS" UInt64.size (some raw) 0 = .ok n ↔ Says UInt64.size raw n := by
      intro n
      simp [number_eq_ok_iff]
    simp only [Option.some.injEq, gives_value, ← hmeans]
    cases number "JQLITE_TIMEOUT_MS" UInt64.size (some raw) 0 <;> simp [Except.map, eq_comm]

/-- What happens to output past its limit is read exactly when its variable gives it. -/
theorem readOverflow_eq_ok_iff {choice : Overflow} :
    readOverflow get = .ok choice ↔ Gives (fun raw => get "JQLITE_OVERFLOW_POLICY" = some raw) Bounds.standard.overflow
      (SaysName Overflow.name) choice := by
  unfold readOverflow
  cases get "JQLITE_OVERFLOW_POLICY" with
  | none => simp [eq_comm]
  | some raw =>
    simp only [Option.some.injEq, gives_value, SaysName, ← Overflow.ofSetting_eq_ok_iff, Lookup.mapError_eq_ok_iff]

/-- The form of the log is read exactly when its variable gives it. -/
theorem readLogFormat_eq_ok_iff {form : LogFormat} :
    readLogFormat get = .ok form ↔ Gives (fun raw => get "JQLITE_LOG_FORMAT" = some raw) LogFormat.pretty
      (SaysName LogFormat.name) form := by
  unfold readLogFormat
  cases get "JQLITE_LOG_FORMAT" with
  | none => simp [eq_comm]
  | some raw =>
    simp only [Option.some.injEq, gives_value, SaysName, ← LogFormat.ofSetting_eq_ok_iff, Lookup.mapError_eq_ok_iff]

/-- The bounds are read exactly when each of them is what its variable gives; they may still be of no use. -/
theorem readBounds_eq_ok_iff {bounds : Bounds} :
    readBounds get = .ok bounds ↔ readTimeout get = .ok bounds.timeout ∧
      Gives (fun raw => get "JQLITE_MAX_OUTPUT_BYTES" = some raw) Bounds.standard.outputLimit (Says UInt64.size)
        bounds.outputLimit ∧
      readOverflow get = .ok bounds.overflow := by
  simp only [readBounds, bind_eq_ok_iff, number_eq_ok_iff]
  constructor
  · rintro ⟨timeout, htimeout, outputLimit, houtput, overflow, hoverflow, h⟩
    cases h
    exact ⟨htimeout, houtput, hoverflow⟩
  · rintro ⟨htimeout, houtput, hoverflow⟩
    exact ⟨_, htimeout, _, houtput, _, hoverflow, rfl⟩

/-- The engines are what their variables give, with bounds that are of use. -/
theorem readEngines_eq_ok_iff {bounds : Bounds} {engines : Engines} :
    readEngines around get bounds = .ok engines ↔
      engines = ⟨around.locate ((get "JQLITE_ENGINE_PATH").getD "./jqlite"),
        around.locate ((get "JQLITE_VIZ_ENGINE_PATH").getD "./jqlite_viz"), bounds⟩ ∧
      bounds.timeout.nanoseconds ≠ 0 ∧ bounds.outputLimit ≠ 0 := by
  rw [← Bounds.validate_eq_ok_iff]
  simp only [readEngines, Engines.validate]
  cases bounds.validate with
  | error refusal => simp
  | ok => simp [eq_comm]

/-- Some milliseconds are some nanoseconds. -/
theorem ofMilliseconds_ne_zero {n : Nat} : (Span.ofMilliseconds n).nanoseconds ≠ 0 ↔ n ≠ 0 := by
  simp only [Span.ofMilliseconds]
  omega

/-- A time of some length is given exactly when some number of milliseconds is. -/
theorem timeout_gives_iff {Held : String → Prop} {timeout : Span} :
    Gives Held Bounds.standard.timeout (fun raw timeout => ∃ n, Says UInt64.size raw n ∧ timeout = .ofMilliseconds n)
        timeout ∧ timeout.nanoseconds ≠ 0 ↔
      Gives Held Bounds.standard.timeout SaysTime timeout := by
  have hmeans : ∀ raw, (∃ n, Says UInt64.size raw n ∧ timeout = .ofMilliseconds n) ∧ timeout.nanoseconds ≠ 0 ↔
      SaysTime raw timeout := by
    intro raw
    constructor
    · rintro ⟨⟨n, hnumber, rfl⟩, hne⟩
      exact ⟨n, ⟨hnumber, ofMilliseconds_ne_zero.1 hne⟩, rfl⟩
    · rintro ⟨n, ⟨hnumber, hne⟩, rfl⟩
      exact ⟨⟨n, hnumber, rfl⟩, ofMilliseconds_ne_zero.2 hne⟩
  refine (gives_and_iff (P := fun timeout : Span => timeout.nanoseconds ≠ 0) (by decide)).trans ?_
  simp only [Gives, hmeans]

/-- Some amount of output is given exactly when the variable says some amount. -/
theorem outputLimit_gives_iff {Held : String → Prop} {outputLimit : Nat} :
    Gives Held Bounds.standard.outputLimit (Says UInt64.size) outputLimit ∧ outputLimit ≠ 0 ↔
      Gives Held Bounds.standard.outputLimit (fun raw n => Says UInt64.size raw n ∧ n ≠ 0) outputLimit :=
  gives_and_iff (P := fun n => n ≠ 0) (by decide)

/-- The settings with these numbers and choices. The other variables are taken as they are. -/
def assembled (around : Surroundings) (get : Lookup) (port bodyLimit : Nat) (bounds : Bounds) (form : LogFormat) :
    Settings where
  host := (get "JQLITE_HOST").getD standardHost
  port := port
  bodyLimit := bodyLimit
  staticDirectory := some (((get "JQLITE_STATIC_DIR").map around.locate).getD (.ofString standardStaticDirectory))
  engines :=
    { query := around.locate ((get "JQLITE_ENGINE_PATH").getD "./jqlite")
      visualization := around.locate ((get "JQLITE_VIZ_ENGINE_PATH").getD "./jqlite_viz")
      bounds := bounds }
  inputs := ⟨((get "JQLITE_INPUT_DIR").map around.locate).getD
    (around.temporaryDirectory.join (.ofString InputDirectory.standardName))⟩
  allowlist := ((get "JQLITE_ENV_ALLOWLIST").map splitNames).getD Environment.standardAllowlist
  logFormat := form
  logDirectory := (get "JQLITE_LOG_DIR").map around.locate

/-- Settings are assembled from what is read of the variables. -/
theorem ReadFrom.eq_assembled {settings : Settings} (h : ReadFrom around lookup settings) :
    settings =
      assembled around lookup.filled settings.port settings.bodyLimit settings.engines.bounds settings.logFormat := by
  obtain ⟨host, port, bodyLimit, staticDirectory, ⟨query, visualization, bounds⟩, ⟨inputs⟩, allowlist, logFormat,
    logDirectory⟩ := settings
  have hhost := gives_getD_iff.1 h.host
  have hstatic := gives_some_iff.1 h.staticDirectory
  have hquery := (gives_apply_iff (f := around.locate)).1 h.query
  have hvisualization := (gives_apply_iff (f := around.locate)).1 h.visualization
  have hinputs := gives_eq_iff.1 h.inputs
  have hallowlist := gives_eq_iff.1 h.allowlist
  have hlogs := gives_none_iff.1 h.logDirectory
  simp only at hhost hstatic hquery hvisualization hinputs hallowlist hlogs
  rw [hhost, hstatic, hquery, hvisualization, hinputs, hallowlist, hlogs, assembled]

/-- Settings that are assembled from what the variables give are read from them. -/
theorem readFrom_assembled {port bodyLimit : Nat} {bounds : Bounds} {form : LogFormat}
    (hport : Gives (lookup.HoldsFirst "JQLITE_PORT" "PORT") standardPort (Says UInt16.size) port)
    (hbody : Gives (lookup.Holds "JQLITE_MAX_BODY_BYTES") standardBodyLimit (Says UInt64.size) bodyLimit)
    (htimeout : Gives (lookup.Holds "JQLITE_TIMEOUT_MS") Bounds.standard.timeout SaysTime bounds.timeout)
    (houtput : Gives (lookup.Holds "JQLITE_MAX_OUTPUT_BYTES") Bounds.standard.outputLimit
      (fun raw n => Says UInt64.size raw n ∧ n ≠ 0) bounds.outputLimit)
    (hoverflow : Gives (lookup.Holds "JQLITE_OVERFLOW_POLICY") Bounds.standard.overflow (SaysName Overflow.name)
      bounds.overflow)
    (hform : Gives (lookup.Holds "JQLITE_LOG_FORMAT") LogFormat.pretty (SaysName LogFormat.name) form) :
    ReadFrom around lookup (assembled around lookup.filled port bodyLimit bounds form) where
  host := gives_getD_iff.2 rfl
  port := hport
  bodyLimit := hbody
  staticDirectory := gives_some_iff.2 rfl
  timeout := htimeout
  outputLimit := houtput
  overflow := hoverflow
  query := by rw [gives_apply_iff (f := around.locate), assembled]
  visualization := by rw [gives_apply_iff (f := around.locate), assembled]
  inputs := gives_eq_iff.2 rfl
  allowlist := gives_eq_iff.2 rfl
  logFormat := hform
  logDirectory := gives_none_iff.2 rfl

/-- There are settings exactly when they are read from the variables. -/
theorem ofLookup_eq_ok_iff {settings : Settings} :
    ofLookup around lookup = .ok settings ↔ ReadFrom around lookup settings := by
  simp only [ofLookup, bind_eq_ok_iff, number_eq_ok_iff, readBounds_eq_ok_iff, readEngines_eq_ok_iff,
    readLogFormat_eq_ok_iff, readTimeout_eq_ok_iff, readOverflow_eq_ok_iff, orElse_filled_eq_some_iff,
    filled_eq_some_iff]
  constructor
  · rintro ⟨port, hport, bodyLimit, hbody, bounds, ⟨htimeout, houtput, hoverflow⟩, engines, ⟨rfl, htime, hlimit⟩,
      form, hform, h⟩
    cases h
    exact readFrom_assembled hport hbody (timeout_gives_iff.1 ⟨htimeout, htime⟩)
      (outputLimit_gives_iff.1 ⟨houtput, hlimit⟩) hoverflow hform
  · intro h
    obtain ⟨htimeout, htime⟩ := timeout_gives_iff.2 h.timeout
    obtain ⟨houtput, hlimit⟩ := outputLimit_gives_iff.2 h.outputLimit
    exact ⟨_, h.port, _, h.bodyLimit, _, ⟨htimeout, houtput, h.overflow⟩, _, ⟨rfl, htime, hlimit⟩, _, h.logFormat,
      congrArg Except.ok h.eq_assembled.symm⟩

/-- Settings can be read from the variables exactly when these can be used. -/
theorem exists_readFrom_iff : (∃ settings, ReadFrom around lookup settings) ↔ Usable lookup := by
  have hone : ∀ {α : Type} {standard : α} {Means : String → α → Prop} (name : String),
      (∃ a, Gives (lookup.Holds name) standard Means a) ↔ ∀ raw, lookup.Holds name raw → ∃ a, Means raw a :=
    fun _ => exists_gives_iff fun _ _ => Holds.unique
  have hfirst : (∃ port, Gives (lookup.HoldsFirst "JQLITE_PORT" "PORT") standardPort (Says UInt16.size) port) ↔
      ∀ raw, lookup.HoldsFirst "JQLITE_PORT" "PORT" raw → ∃ port, Says UInt16.size raw port :=
    exists_gives_iff fun _ _ => HoldsFirst.unique
  constructor
  · rintro ⟨settings, h⟩
    refine ⟨hfirst.1 ⟨_, h.port⟩, (hone _).1 ⟨_, h.bodyLimit⟩, ?_, (hone _).1 ⟨_, h.outputLimit⟩, ?_, ?_⟩
    · intro raw hraw
      obtain ⟨timeout, n, hn, -⟩ := (hone _).1 ⟨_, h.timeout⟩ raw hraw
      exact ⟨n, hn⟩
    · intro raw hraw
      obtain ⟨choice, hword⟩ := (hone _).1 ⟨_, h.overflow⟩ raw hraw
      cases choice with
      | abort => exact .inl hword
      | truncate => exact .inr hword
    · intro raw hraw
      obtain ⟨form, hword⟩ := (hone _).1 ⟨_, h.logFormat⟩ raw hraw
      cases form with
      | pretty => exact .inl hword
      | json => exact .inr hword
  · intro h
    obtain ⟨port, hport⟩ := hfirst.2 h.port
    obtain ⟨bodyLimit, hbody⟩ := (hone _).2 h.bodyLimit
    obtain ⟨timeout, htimeout⟩ :
        ∃ timeout, Gives (lookup.Holds "JQLITE_TIMEOUT_MS") Bounds.standard.timeout SaysTime timeout := by
      refine (hone _).2 fun raw hraw => ?_
      obtain ⟨n, hn⟩ := h.timeout raw hraw
      exact ⟨.ofMilliseconds n, n, hn, rfl⟩
    obtain ⟨outputLimit, houtput⟩ := (hone _).2 h.outputLimit
    obtain ⟨choice, hchoice⟩ : ∃ choice, Gives (lookup.Holds "JQLITE_OVERFLOW_POLICY") Bounds.standard.overflow
        (SaysName Overflow.name) choice :=
      (hone _).2 fun raw hraw => (h.overflow raw hraw).elim (⟨.abort, ·⟩) (⟨.truncate, ·⟩)
    obtain ⟨form, hform⟩ :
        ∃ form, Gives (lookup.Holds "JQLITE_LOG_FORMAT") LogFormat.pretty (SaysName LogFormat.name) form :=
      (hone _).2 fun raw hraw => (h.logFormat raw hraw).elim (⟨.pretty, ·⟩) (⟨.json, ·⟩)
    exact ⟨assembled around lookup.filled port bodyLimit ⟨timeout, outputLimit, choice⟩ form,
      readFrom_assembled hport hbody htimeout houtput hchoice hform⟩

/-! ## What does not count -/

/-- The variables that settings are read from. -/
def names : List String :=
  ["JQLITE_PORT", "PORT", "JQLITE_HOST", "JQLITE_MAX_BODY_BYTES", "JQLITE_STATIC_DIR", "JQLITE_TIMEOUT_MS",
   "JQLITE_MAX_OUTPUT_BYTES", "JQLITE_OVERFLOW_POLICY", "JQLITE_ENGINE_PATH", "JQLITE_VIZ_ENGINE_PATH",
   "JQLITE_INPUT_DIR", "JQLITE_ENV_ALLOWLIST", "JQLITE_LOG_FORMAT", "JQLITE_LOG_DIR"]

/-- Two lookups agree: these variables hold the same values, but where the first variable for the port holds one they may
disagree on the second. -/
def Agree (lookup lookup' : Lookup) : Prop :=
  ∀ name ∈ names, (name = "PORT" → ∀ raw, ¬lookup.Holds "JQLITE_PORT" raw) →
    ∀ raw, lookup.Holds name raw ↔ lookup'.Holds name raw

/-- Lookups agree exactly when the same is looked up in them, blank values aside. -/
theorem agree_iff {lookup lookup' : Lookup} :
    Agree lookup lookup' ↔ ∀ name ∈ names, (name = "PORT" → lookup.filled "JQLITE_PORT" = none) →
      lookup.filled name = lookup'.filled name := by
  have hsame : ∀ name, (∀ raw, lookup.Holds name raw ↔ lookup'.Holds name raw) ↔
      lookup.filled name = lookup'.filled name := by
    intro name
    simp only [← filled_eq_some_iff]
    exact Option.ext_iff.symm
  simp only [Agree, hsame, filled_eq_none_iff]

/-- Lookups that agree have the same value for every variable but the second one for the port. -/
theorem Agree.filled {lookup lookup' : Lookup} (h : Agree lookup lookup') (name : String) (hname : name ∈ names)
    (hne : name ≠ "PORT") : lookup.filled name = lookup'.filled name := by
  refine agree_iff.1 h name hname ?_
  intro heq
  exact absurd heq hne

/-- The port is looked up alike in lookups that agree. -/
theorem Agree.port {lookup lookup' : Lookup} (h : Agree lookup lookup') :
    (lookup.filled "JQLITE_PORT" <|> lookup.filled "PORT") =
      (lookup'.filled "JQLITE_PORT" <|> lookup'.filled "PORT") := by
  have hfirst := h.filled "JQLITE_PORT" (by decide) (by decide)
  cases hport : lookup.filled "JQLITE_PORT" with
  | some raw =>
    rw [← hfirst, hport]
    rfl
  | none => rw [← hfirst, hport, agree_iff.1 h "PORT" (by decide) fun _ => hport]

/-- Lookups that agree come to the same settings or to the same error. -/
theorem Agree.ofLookup_eq {lookup lookup' : Lookup} (h : Agree lookup lookup') (around : Surroundings) :
    ofLookup around lookup = ofLookup around lookup' := by
  have hbounds : readBounds lookup.filled = readBounds lookup'.filled := by
    simp only [readBounds, readTimeout, readOverflow, h.filled "JQLITE_TIMEOUT_MS" (by decide) (by decide),
      h.filled "JQLITE_MAX_OUTPUT_BYTES" (by decide) (by decide),
      h.filled "JQLITE_OVERFLOW_POLICY" (by decide) (by decide)]
  have hengines : readEngines around lookup.filled = readEngines around lookup'.filled := by
    funext bounds
    simp only [readEngines, h.filled "JQLITE_ENGINE_PATH" (by decide) (by decide),
      h.filled "JQLITE_VIZ_ENGINE_PATH" (by decide) (by decide)]
  have hform : readLogFormat lookup.filled = readLogFormat lookup'.filled := by
    simp only [readLogFormat, h.filled "JQLITE_LOG_FORMAT" (by decide) (by decide)]
  simp only [ofLookup, h.port, hbounds, hengines, hform, h.filled "JQLITE_MAX_BODY_BYTES" (by decide) (by decide),
    h.filled "JQLITE_HOST" (by decide) (by decide), h.filled "JQLITE_STATIC_DIR" (by decide) (by decide),
    h.filled "JQLITE_INPUT_DIR" (by decide) (by decide), h.filled "JQLITE_ENV_ALLOWLIST" (by decide) (by decide),
    h.filled "JQLITE_LOG_DIR" (by decide) (by decide)]

/-- There are settings exactly when the variables can be used, each of them is then what the value means that its own
variable holds, or its default if that variable holds none, and nothing but the values that are held counts. -/
theorem ofLookup_spec (around : Surroundings) (lookup : Lookup) :
    ((∃ settings, ofLookup around lookup = .ok settings) ↔ Usable lookup) ∧
    (∀ settings, ofLookup around lookup = .ok settings ↔ ReadFrom around lookup settings) ∧
    ∀ lookup', Agree lookup lookup' → ofLookup around lookup = ofLookup around lookup' := by
  refine ⟨?_, fun settings => ofLookup_eq_ok_iff, fun lookup' h => h.ofLookup_eq around⟩
  simp only [ofLookup_eq_ok_iff]
  exact exists_readFrom_iff

/-- A port behind a plus, a blank time of a run, and a second variable for the port that holds no number: the port is the
number, everything else its default, and without the second variable they are the same. A port that is no number is an
error. -/
theorem ofLookup_spec_shadowed :
    let around : Surroundings := { cwd := .ofString "/srv" }
    let lookup : Lookup := fun name =>
      [("JQLITE_PORT", " +08080 "), ("PORT", "eighty"), ("JQLITE_TIMEOUT_MS", "\t")].lookup name
    let lookup' : Lookup := fun name => [("JQLITE_PORT", " +08080 ")].lookup name
    let unusable : Lookup := fun name => [("JQLITE_PORT", "abc"), ("PORT", "8080")].lookup name
    ofLookup around lookup = .ok {
        host := "0.0.0.0", port := 8080, bodyLimit := 10485760, staticDirectory := some (.ofString "public")
        engines := ⟨.ofString "/srv/jqlite", .ofString "/srv/jqlite_viz", ⟨.ofMilliseconds 5000, 10485760, .abort⟩⟩
        inputs := ⟨.ofString "/tmp/jqlite-gateway"⟩
        allowlist := ["PATH", "HOME", "USER", "LANG", "LC_ALL", "TMPDIR"]
        logFormat := .pretty, logDirectory := none } ∧
      Agree lookup lookup' ∧ ofLookup around lookup = ofLookup around lookup' ∧ ¬Usable unusable ∧
      ofLookup around unusable = .error (.number "JQLITE_PORT" "abc" .badDigit) := by
  intro around lookup lookup' unusable
  have hagree : Agree lookup lookup' := agree_iff.2 (by decide)
  have hfault : ofLookup around unusable = .error (.number "JQLITE_PORT" "abc" .badDigit) := rfl
  have hunusable : ¬Usable unusable := by
    intro h
    obtain ⟨settings, hsettings⟩ := (ofLookup_spec around unusable).1.2 h
    rw [hfault] at hsettings
    cases hsettings
  refine ⟨?_, hagree, (ofLookup_spec around lookup).2.2 lookup' hagree, hunusable, hfault⟩
  subst around lookup
  rfl

end Settings
end QueryGateway
