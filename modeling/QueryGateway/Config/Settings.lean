import QueryGateway.Config.Location
import QueryGateway.Config.LogFormat
import QueryGateway.Engine.Call
import QueryGateway.Engine.Environment
import QueryGateway.Input.Directory
import QueryGateway.Text.Fields
import QueryGateway.Text.Natural

/-!
# Settings

The gateway is set up from variables. One that holds only blanks counts as unset and an unset one takes its default; a
value that cannot be used is an error and never falls back to a default. Variables are looked at in a fixed order, and
the first error is the one reported.
-/

namespace QueryGateway

/-- What the gateway is set up with. -/
structure Settings where
  host : String
  port : Nat
  bodyLimit : Nat
  /-- The directory served outside the interface. -/
  staticDirectory : Option Path
  engines : Engines
  inputs : InputDirectory
  allowlist : List String
  logFormat : LogFormat
  logDirectory : Option Path
deriving DecidableEq, Repr, Inhabited

/-- A value that cannot be used. -/
inductive SettingFault where
  | number (name raw : String) (flaw : Text.NaturalFlaw)
  | overflow (refusal : Refusal)
  | engines (refusal : Refusal)
  | logFormat (word : String)
deriving DecidableEq, Repr

/-- The wording of an error, from its outermost context to its innermost cause. -/
def SettingFault.chain : SettingFault → List String
  | number name raw flaw => ["Invalid " ++ name ++ "='" ++ raw ++ "': " ++ flaw.message]
  | overflow refusal => ["Invalid JQLITE_OVERFLOW_POLICY", refusal.message]
  | engines refusal => ["Invalid engine settings", refusal.message]
  | logFormat word => [LogFormat.unknown word]

/-- The variables as they are looked up. -/
abbrev Lookup := String → Option String

namespace Lookup

/-- The value of a variable unless it is blank. -/
def filled (get : Lookup) : Lookup :=
  fun name => (get name).filter fun value => !Text.allBlank value

/-- A number below a bound, or its default. The first of the variables that is set decides; an error names the variable
`name`. -/
def number (name : String) (bound : Nat) (raw : Option String) (standard : Nat) : Except SettingFault Nat :=
  match raw with
  | none => .ok standard
  | some raw => (Text.readNatural bound (Text.trim raw)).mapError (.number name raw)

end Lookup

namespace Settings

/-- The address listened on unless the settings say otherwise. -/
def standardHost : String := "0.0.0.0"

/-- The port listened on unless the settings say otherwise. -/
def standardPort : Nat := 3000

/-- The largest body unless the settings say otherwise: ten mebibytes. -/
def standardBodyLimit : Nat := 10 * 1024 * 1024

/-- The directory served unless the settings say otherwise; it is not made absolute. -/
def standardStaticDirectory : String := "public"

/-- The names on a list separated by commas; blanks around a name do not belong to it, empty names are left out. -/
def splitNames (s : String) : List String :=
  ((Text.fields ',' s.toList).map fun name => Text.trim (String.ofList name)).filter (· ≠ "")

/-- The longest time that a run may take. -/
def readTimeout (get : Lookup) : Except SettingFault Span :=
  match get "JQLITE_TIMEOUT_MS" with
  | none => .ok Bounds.standard.timeout
  | some raw => (Lookup.number "JQLITE_TIMEOUT_MS" UInt64.size (some raw) 0).map Span.ofMilliseconds

/-- What happens to output past its limit. -/
def readOverflow (get : Lookup) : Except SettingFault Overflow :=
  match get "JQLITE_OVERFLOW_POLICY" with
  | none => .ok Bounds.standard.overflow
  | some raw => (Overflow.ofSetting raw).mapError .overflow

/-- The bounds of a run. -/
def readBounds (get : Lookup) : Except SettingFault Bounds := do
  let timeout ← readTimeout get
  let outputLimit ← Lookup.number "JQLITE_MAX_OUTPUT_BYTES" UInt64.size (get "JQLITE_MAX_OUTPUT_BYTES")
    Bounds.standard.outputLimit
  let overflow ← readOverflow get
  .ok { timeout := timeout, outputLimit := outputLimit, overflow := overflow }

/-- The engines and their bounds; bounds that no run could succeed under are an error. -/
def readEngines (around : Surroundings) (get : Lookup) (bounds : Bounds) : Except SettingFault Engines :=
  let engines : Engines :=
    { query := around.locate ((get "JQLITE_ENGINE_PATH").getD "./jqlite"),
      visualization := around.locate ((get "JQLITE_VIZ_ENGINE_PATH").getD "./jqlite_viz"),
      bounds := bounds }
  match engines.validate with
  | .error refusal => .error (.engines refusal)
  | .ok () => .ok engines

/-- The form of the log. -/
def readLogFormat (get : Lookup) : Except SettingFault LogFormat :=
  match get "JQLITE_LOG_FORMAT" with
  | none => .ok .pretty
  | some raw => (LogFormat.ofSetting raw).mapError .logFormat

/-- The settings that variables make, in the given surroundings. The host is taken as it is, blanks and all. -/
def ofLookup (around : Surroundings) (lookup : Lookup) : Except SettingFault Settings := do
  let get := lookup.filled
  let port ← Lookup.number "JQLITE_PORT" UInt16.size (get "JQLITE_PORT" <|> get "PORT") standardPort
  let bodyLimit ← Lookup.number "JQLITE_MAX_BODY_BYTES" UInt64.size (get "JQLITE_MAX_BODY_BYTES") standardBodyLimit
  let bounds ← readBounds get
  let engines ← readEngines around get bounds
  let logFormat ← readLogFormat get
  let standardInputs := around.temporaryDirectory.join (.ofString InputDirectory.standardName)
  .ok {
    host := (get "JQLITE_HOST").getD standardHost,
    port := port,
    bodyLimit := bodyLimit,
    staticDirectory := some (((get "JQLITE_STATIC_DIR").map around.locate).getD (.ofString standardStaticDirectory)),
    engines := engines,
    inputs := ⟨((get "JQLITE_INPUT_DIR").map around.locate).getD standardInputs⟩,
    allowlist := ((get "JQLITE_ENV_ALLOWLIST").map splitNames).getD Environment.standardAllowlist,
    logFormat := logFormat,
    logDirectory := (get "JQLITE_LOG_DIR").map around.locate }

/-- The value of a variable in an environment; one that is no text counts as unset. -/
def ofEnvironmentValue (environment : Environment) : Lookup :=
  fun name => (environment.lookup (Text.encode name)).bind Text.decode?

/-- The settings that the environment of a process makes. -/
def ofEnvironment (around : Surroundings) (environment : Environment) : Except SettingFault Settings :=
  ofLookup around (ofEnvironmentValue environment)

end Settings

end QueryGateway
