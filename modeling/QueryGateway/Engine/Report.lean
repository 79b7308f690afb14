import QueryGateway.Engine.Bounds

/-!
# How a run went

A report says why a run did not end cleanly, if it did not, and carries what it printed. Times in a report are machine
words: milliseconds of a timeout are unsigned, a duration is signed, both of 64 bits.
-/

namespace QueryGateway

/-- Why a run did not end cleanly. -/
inductive Fault where
  | notStarted (program reason : String)
  | exitCode (code : Int)
  | signal (number : Int)
  | timedOut (milliseconds : Nat)
  | outputLimit (limit : Nat)
  | io (reason : String)
deriving DecidableEq, Repr, Inhabited

/-- The wording of a fault. -/
def Fault.message : Fault → String
  | notStarted program reason => "Failed to spawn " ++ program ++ ": " ++ reason
  | exitCode code => "Process exited with code " ++ toString code
  | signal number => "Process terminated by signal " ++ toString number
  | timedOut milliseconds => "Process timed out after " ++ Nat.repr milliseconds ++ "ms"
  | outputLimit limit => "Output exceeded the limit of " ++ Nat.repr limit ++ " bytes"
  | io reason => "I/O error while waiting for process: " ++ reason

namespace Span

/-- The milliseconds of a span as an unsigned word. -/
def unsignedMilliseconds (t : Span) : Nat := t.milliseconds % UInt64.size

/-- The milliseconds of a span as a signed word. -/
def signedMilliseconds (t : Span) : Int := Int.bmod t.milliseconds UInt64.size

end Span

/-- The report of a run. -/
structure Report where
  fault : Option Fault := none
  killedByTimeout : Bool := false
  stdout : String := ""
  stderr : String := ""
  /-- How long the run took, in milliseconds. -/
  duration : Int := 0
deriving DecidableEq, Repr, Inhabited

namespace Report

/-- A clean end. -/
def exited (stdout stderr : String) : Report :=
  { stdout := stdout, stderr := stderr }

/-- An end that was not clean. -/
def failed (fault : Fault) (stdout stderr : String) : Report :=
  { fault := some fault, stdout := stdout, stderr := stderr }

/-- A run that never started. -/
def notStarted (program reason : String) : Report :=
  failed (.notStarted program reason) "" ""

/-- A run stopped because its time was up. -/
def timedOut (timeout : Span) : Report :=
  { fault := some (.timedOut timeout.unsignedMilliseconds), killedByTimeout := true,
    duration := timeout.signedMilliseconds }

end Report

end QueryGateway
