import QueryGateway.Engine.Call
import QueryGateway.Engine.Intake
import QueryGateway.Engine.WaitStatus

/-!
# Watching a run

While a run goes on the gateway reads both channels as they deliver, and asks for the status of the process only when
both have closed. What may happen to a run is a list of sights in the order of their times; those before the deadline
are fed to the pump one by one. A pump that has not finished when they are used up is a run that timed out. The
process may well have ended by then: a channel that something else still holds open keeps the pump going.
-/

namespace QueryGateway

/-- Something that happens to a run. A read of no bytes is the end of its channel. -/
inductive Sight where
  | read (channel : Channel) (chunk : Bytes)
  | readFailed (channel : Channel) (reason : String)
  | ended (status : WaitStatus)
  | waitFailed (reason : String)
deriving DecidableEq, Repr

/-- How watching came to its end. -/
inductive Ending where
  | exited (status : WaitStatus)
  | overflowed
  | failed (reason : String)
deriving DecidableEq, Repr

/-- The pump: what it has taken in, which channels are open, and what it will find when it asks for the process. -/
structure Pump where
  intake : Intake := {}
  stdoutOpen : Bool := true
  stderrOpen : Bool := true
  child : Option Ending := none
  ending : Option Ending := none
deriving DecidableEq, Repr

namespace Pump

/-- Whether a channel is open. -/
def isOpen (p : Pump) : Channel → Bool
  | .stdout => p.stdoutOpen
  | .stderr => p.stderrOpen

/-- With both channels closed the process is asked for; the pump ends as soon as there is an answer. -/
def settle (p : Pump) : Pump :=
  if p.stdoutOpen || p.stderrOpen then p else { p with ending := p.child }

/-- A channel has come to its end. -/
def close (p : Pump) : Channel → Pump
  | .stdout => { p with stdoutOpen := false }
  | .stderr => { p with stderrOpen := false }

/-- Takes in a read that is not empty; under `abort` a pump that had to drop something ends here. -/
def takeIn (bounds : Bounds) (p : Pump) (channel : Channel) (chunk : Bytes) : Pump :=
  let intake := p.intake.take bounds.outputLimit channel chunk
  if intake.overflowed ∧ bounds.overflow = .abort then { p with intake := intake, ending := some .overflowed }
  else { p with intake := intake }

/-- One sight. A pump that has ended sees nothing more, and a closed channel is never read again. -/
def step (bounds : Bounds) (p : Pump) (sight : Sight) : Pump :=
  if p.ending.isSome then p
  else
    match sight with
    | .read channel chunk =>
      if !p.isOpen channel then p
      else if chunk = [] then (p.close channel).settle
      else p.takeIn bounds channel chunk
    | .readFailed channel reason => if p.isOpen channel then { p with ending := some (.failed reason) } else p
    | .ended status => settle { p with child := p.child <|> some (.exited status) }
    | .waitFailed reason => settle { p with child := p.child <|> some (.failed reason) }

/-- Feeds sights to the pump. -/
def run (bounds : Bounds) (p : Pump) (sights : List Sight) : Pump :=
  sights.foldl (step bounds) p

end Pump

/-- How a run was met by the operating system: it did not start, or it started and this is what happened before its
deadline. -/
inductive Course where
  | notStarted (reason : String)
  | started (sights : List Sight)
deriving DecidableEq, Repr

namespace Call

/-- The fault of a run that was watched up to its deadline. -/
def faultOf (call : Call) : Option Ending → Option Fault
  | some (.exited status) => status.fault?
  | some .overflowed => some (.outputLimit call.bounds.outputLimit)
  | some (.failed reason) => some (.io reason)
  | none => some (.timedOut call.bounds.timeout.unsignedMilliseconds)

/-- The report of a call that took this course. Text that is not well-formed is shown with replacement characters. -/
def report (call : Call) (course : Course) (duration : Int) : Report :=
  match course with
  | .notStarted reason => { Report.notStarted call.program.display reason with duration := duration }
  | .started sights =>
    let pump := Pump.run call.bounds {} sights
    { fault := call.faultOf pump.ending,
      killedByTimeout := pump.ending.isNone,
      stdout := Text.lossy pump.intake.stdout,
      stderr := Text.lossy pump.intake.stderr,
      duration := duration }

end Call

end QueryGateway
