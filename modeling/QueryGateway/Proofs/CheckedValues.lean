import QueryGateway.Proofs.Configuration

/-!
# Values that cannot be used

Six variables have to say a number or a word (`Settings.Checked`). A value that is a text, is not blank and does not say
one is an error wherever it stands (`Settings.exists_fault_of_unfit`). A value that is no text is not looked at: the
variable counts as unset (`Settings.ofEnvironment_unreadable`), and its default, or the second variable for the port,
stands in for it (`Settings.unreadable_port_passed_over`).
-/

namespace QueryGateway
namespace Settings

open Lookup

/-- The variables that have to say a number or a word. -/
inductive Checked where
  | port
  | bodyLimit
  | timeout
  | outputLimit
  | overflow
  | logFormat
deriving DecidableEq, Repr

namespace Checked

/-- The name of the variable. -/
def name : Checked → String
  | port => "JQLITE_PORT"
  | bodyLimit => "JQLITE_MAX_BODY_BYTES"
  | timeout => "JQLITE_TIMEOUT_MS"
  | outputLimit => "JQLITE_MAX_OUTPUT_BYTES"
  | overflow => "JQLITE_OVERFLOW_POLICY"
  | logFormat => "JQLITE_LOG_FORMAT"

/-- The texts that can be used as its value. -/
def Fits : Checked → String → Prop
  | port, raw => ∃ n, Says UInt16.size raw n
  | bodyLimit, raw => ∃ n, Says UInt64.size raw n
  | timeout, raw => ∃ n, Says UInt64.size raw n ∧ n ≠ 0
  | outputLimit, raw => ∃ n, Says UInt64.size raw n ∧ n ≠ 0
  | overflow, raw => Text.lowerAscii (Text.trim raw) = "abort" ∨ Text.lowerAscii (Text.trim raw) = "truncate"
  | logFormat, raw => Text.lowerAscii (Text.trim raw) = "pretty" ∨ Text.lowerAscii (Text.trim raw) = "json"

end Checked

/-- In variables that can be used each of the six has a value that can be used, or none. -/
theorem Usable.fits {lookup : Lookup} (h : Usable lookup) (checked : Checked) {raw : String}
    (hraw : lookup.Holds checked.name raw) : checked.Fits raw := by
  cases checked with
  | port => exact h.port raw (.inl hraw)
  | bodyLimit => exact h.bodyLimit raw hraw
  | timeout => exact h.timeout raw hraw
  | outputLimit => exact h.outputLimit raw hraw
  | overflow => exact h.overflow raw hraw
  | logFormat => exact h.logFormat raw hraw

section
variable {environment : Environment} {bytes : Bytes}

/-- A variable holds the text that its bytes are. -/
theorem holds_ofEnvironmentValue {name text : String} (hset : environment.lookup (Text.encode name) = some bytes)
    (htext : Text.decode? bytes = some text) (hfilled : Text.allBlank text = false) :
    (ofEnvironmentValue environment).Holds name text := by
  refine ⟨?_, hfilled⟩
  rw [ofEnvironmentValue, hset, Option.bind_some, htext]

/-- A text that is not blank and cannot be used is an error. -/
theorem exists_fault_of_unfit (around : Surroundings) (checked : Checked) {text : String}
    (hset : environment.lookup (Text.encode checked.name) = some bytes) (htext : Text.decode? bytes = some text)
    (hfilled : Text.allBlank text = false) (hunfit : ¬ checked.Fits text) :
    ∃ fault, ofEnvironment around environment = .error fault := by
  cases houtcome : ofEnvironment around environment with
  | error fault => exact ⟨fault, rfl⟩
  | ok settings =>
    have husable := exists_readFrom_iff.1 ⟨settings, ofLookup_eq_ok_iff.1 houtcome⟩
    exact absurd (husable.fits checked (holds_ofEnvironmentValue hset htext hfilled)) hunfit

/-- A value that is no text does as much as no value. -/
theorem ofEnvironment_unreadable (around : Surroundings) {name : String} {environment' : Environment}
    (hset : environment.lookup (Text.encode name) = some bytes) (hunreadable : Text.decode? bytes = none)
    (hunset : environment'.lookup (Text.encode name) = none)
    (hothers : ∀ other, other ≠ name →
      environment'.lookup (Text.encode other) = environment.lookup (Text.encode other)) :
    ofEnvironment around environment = ofEnvironment around environment' := by
  have hvalues : ofEnvironmentValue environment = ofEnvironmentValue environment' := by
    funext other
    by_cases hother : other = name
    · rw [hother, ofEnvironmentValue, ofEnvironmentValue, hset, hunset, Option.bind_some, hunreadable, Option.bind_none]
    · rw [ofEnvironmentValue, ofEnvironmentValue, hothers other hother]
  rw [ofEnvironment, ofEnvironment, hvalues]

/-- What becomes of a checked variable that is set: a value that is a text, is not blank and cannot be used is an
error, and so it is never passed over. A value that is no text is passed over as if the variable were not set. -/
theorem ofEnvironment_checked (around : Surroundings) (checked : Checked)
    (hset : environment.lookup (Text.encode checked.name) = some bytes) :
    (∀ text, Text.decode? bytes = some text → Text.allBlank text = false → ¬ checked.Fits text →
      ∃ fault, ofEnvironment around environment = .error fault) ∧
    (Text.decode? bytes = none → ∀ environment' : Environment,
      environment'.lookup (Text.encode checked.name) = none →
      (∀ other, other ≠ checked.name →
        environment'.lookup (Text.encode other) = environment.lookup (Text.encode other)) →
      ofEnvironment around environment = ofEnvironment around environment') :=
  ⟨fun _ => exists_fault_of_unfit around checked hset,
    fun hunreadable _ => ofEnvironment_unreadable around hset hunreadable⟩

end

/-- A word for the form of the log that names no form. -/
theorem ofEnvironment_checked_unknown :
    let environment : Environment := [(Text.encode "JQLITE_LOG_FORMAT", Text.encode " xml")]
    environment.lookup (Text.encode Checked.logFormat.name) = some (Text.encode " xml") ∧
      ∃ fault, ofEnvironment { cwd := .ofString "/srv" } environment = .error fault := by
  intro environment
  have hset : environment.lookup (Text.encode Checked.logFormat.name) = some (Text.encode " xml") := by decide
  refine ⟨hset, (ofEnvironment_checked _ .logFormat hset).1 " xml" (by decide) (by decide) ?_⟩
  show ¬ (Text.lowerAscii (Text.trim " xml") = "pretty" ∨ Text.lowerAscii (Text.trim " xml") = "json")
  decide

/-- The first variable for the port holds a byte that is in no text, and the second one decides. -/
theorem unreadable_port_passed_over :
    let environment : Environment :=
      [(Text.encode "JQLITE_PORT", [0xFF]), (Text.encode "PORT", Text.encode "8080")]
    environment.lookup (Text.encode Checked.port.name) = some [0xFF] ∧ Text.decode? [0xFF] = none ∧
      (ofEnvironment { cwd := .ofString "/srv" } environment).toOption.map Settings.port = some 8080 := by
  decide

end Settings
end QueryGateway
