import QueryGateway.Gateway.Refusal
import QueryGateway.Text.Blank

/-!
# The bounds of a run

Every run of an engine is bounded in time and in the size of what it prints. Time is kept in nanoseconds; whoever
reads about it sees whole milliseconds.
-/

namespace QueryGateway

/-- A span of time. -/
structure Span where
  nanoseconds : Nat
deriving DecidableEq, Repr, Inhabited

namespace Span

/-- A number of milliseconds. -/
def ofMilliseconds (n : Nat) : Span := ⟨n * 1000000⟩

/-- The whole milliseconds of a span. -/
def milliseconds (t : Span) : Nat := t.nanoseconds / 1000000

end Span

/-- What happens to output past the limit: the run is stopped, or the rest is dropped and the run goes on. -/
inductive Overflow where
  | abort
  | truncate
deriving DecidableEq, Repr, Inhabited

namespace Overflow

/-- The name of a choice. -/
def name : Overflow → String
  | abort => "abort"
  | truncate => "truncate"

/-- The choice with this name, if there is one. -/
def named? (name : String) : Option Overflow :=
  [abort, truncate].find? (·.name = name)

/-- The choice that a setting names; case and blanks around it do not matter. -/
def ofSetting (s : String) : Except Refusal Overflow :=
  let word := Text.lowerAscii (Text.trim s)
  match named? word with
  | some choice => .ok choice
  | none =>
    .error (.invalidSettings ("unknown overflow policy '" ++ word ++ "' (expected 'abort' or 'truncate')"))

end Overflow

/-- The bounds of a run. -/
structure Bounds where
  timeout : Span
  /-- How many bytes the two output channels may carry together. -/
  outputLimit : Nat
  overflow : Overflow
deriving DecidableEq, Repr, Inhabited

namespace Bounds

/-- Five seconds, ten mebibytes, and a run that prints more is stopped. -/
def standard : Bounds :=
  { timeout := .ofMilliseconds 5000, outputLimit := 10 * 1024 * 1024, overflow := .abort }

/-- Bounds under which no run could succeed are refused; the time is looked at first. -/
def validate (b : Bounds) : Except Refusal Unit :=
  if b.timeout.nanoseconds = 0 then .error (.invalidSettings "timeout must be greater than zero")
  else if b.outputLimit = 0 then .error (.invalidSettings "max output bytes must be greater than zero")
  else .ok ()

/-- The timeout in words: whole seconds as seconds, anything else in milliseconds. -/
def timeoutLabel (b : Bounds) : String :=
  let ms := b.timeout.milliseconds
  if ms = 1000 then "1 second"
  else if ms % 1000 = 0 then Nat.repr (ms / 1000) ++ " seconds"
  else Nat.repr ms ++ " ms"

end Bounds

end QueryGateway
