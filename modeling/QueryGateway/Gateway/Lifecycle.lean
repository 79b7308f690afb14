import QueryGateway.Answer.Verdict
import QueryGateway.Gateway.Guard
import QueryGateway.Gateway.Health
import QueryGateway.Gateway.RequestFault
import QueryGateway.Gateway.Submission

/-!
# The life of a request

A request is validated, named, given its input, run, judged, and rid of its input again, whatever happened in between.
Each of these is one step, taken on a state that many requests share, so that requests may take their steps in any
order. What the outside does at each step is given by the ports.
-/

namespace QueryGateway

/-- How a run ends: with a report, with a crash of whoever made it, or not at all. -/
inductive Run where
  | finished (report : Report)
  | crashed (payload : Payload)
  | hanging
deriving DecidableEq, Repr, Inhabited

/-- What the gateway needs from outside, over a state of the outside. -/
structure Ports (σ : Type) where
  /-- Draws the name of a new request. -/
  drawId : σ → String × σ
  /-- Provides an input under a name. -/
  acquire : String → String → σ → Except StoreFault Lease × σ
  /-- Ends the hold of a request on its input. -/
  release : Lease → σ → σ
  /-- A lease is dropped that was not released. -/
  discard : Lease → σ → σ
  /-- Whether a program could be run. -/
  available : σ → Path → Bool
  /-- Begins a run; how it will end is settled here, when it ends is not. -/
  invoke : Call → σ → Run × σ

/-- What a request comes to. -/
inductive Outcome where
  | replied (reply : Reply)
  | failed (fault : RequestFault)
  | cancelled
deriving Repr, Inhabited

/-- Where a request stands. -/
inductive Stage where
  /-- Sent, not yet looked at. -/
  | submitted (engine : Engine) (submission : Submission)
  /-- Found fit to run. -/
  | admitted (engine : Engine) (query : Query)
  /-- Named. -/
  | named (engine : Engine) (query : Query) (id : String)
  /-- In hold of its input. -/
  | holding (engine : Engine) (query : Query) (lease : Lease)
  /-- Its engine is running. -/
  | running (engine : Engine) (lease : Lease) (run : Run)
  /-- Its engine is done; the input is still there. -/
  | settled (lease : Lease) (outcome : Outcome)
  /-- Over. -/
  | finished (outcome : Outcome)
deriving Inhabited

namespace Stage

/-- The error of a trace that nobody could draw. -/
def visualizationUnavailable : String :=
  "Visualization not available. Please build the visualization engine first."

/-- The lease that a request holds, if it holds one. -/
def lease? : Stage → Option Lease
  | holding _ _ lease => some lease
  | running _ lease _ => some lease
  | settled lease _ => some lease
  | _ => none

/-- What a request came to, if it is over. -/
def outcome? : Stage → Option Outcome
  | finished outcome => some outcome
  | _ => none

/-- What a run comes to for its request. -/
def outcomeOf (engines : Engines) (engine : Engine) : Run → Option Outcome
  | .finished report => some (.replied (report.verdict engine engines.bounds))
  | .crashed payload => some (.failed (.crashed payload.message))
  | .hanging => none

/-- One step of a request. A request whose run hangs, or that is over, stays where it is. -/
def advance {σ : Type} (ports : Ports σ) (engines : Engines) (stage : Stage) (s : σ) : Stage × σ :=
  match stage with
  | submitted engine submission =>
    match submission.validate with
    | .error refusal => (finished (.failed (.refused refusal)), s)
    | .ok query =>
      if engine = .visualization ∧ !ports.available s engines.visualization then
        (finished (.replied (.bareTraceFailure visualizationUnavailable)), s)
      else (admitted engine query, s)
  | admitted engine query =>
    let (id, s) := ports.drawId s
    (named engine query id, s)
  | named engine query id =>
    match ports.acquire id query.document s with
    | (.error fault, s) => (finished (.failed (.store fault)), s)
    | (.ok lease, s) => (holding engine query lease, s)
  | holding engine query lease =>
    let (run, s) := ports.invoke (engines.call engine query.expression lease.path) s
    (running engine lease run, s)
  | running engine lease run =>
    match outcomeOf engines engine run with
    | some outcome => (settled lease outcome, s)
    | none => (running engine lease run, s)
  | settled lease outcome => (finished outcome, ports.release lease s)
  | finished outcome => (finished outcome, s)

/-- A request is given up: what it holds is dropped. -/
def giveUp {σ : Type} (ports : Ports σ) (stage : Stage) (s : σ) : Stage × σ :=
  match stage with
  | finished outcome => (finished outcome, s)
  | stage =>
    match stage.lease? with
    | some lease => (finished .cancelled, ports.discard lease s)
    | none => (finished .cancelled, s)

/-- How many steps a request takes at most. -/
def mostSteps : Nat := 6

/-- Takes steps of one request. -/
def advances {σ : Type} (ports : Ports σ) (engines : Engines) : Nat → Stage → σ → Stage × σ
  | 0, stage, s => (stage, s)
  | n + 1, stage, s =>
    let (stage, s) := advance ports engines stage s
    advances ports engines n stage s

end Stage

namespace Ports

/-- Handles a request from end to end. One whose run hangs is given up. -/
def serve {σ : Type} (ports : Ports σ) (engines : Engines) (engine : Engine) (submission : Submission) (s : σ) :
    Outcome × σ :=
  let (stage, s) := Stage.advances ports engines Stage.mostSteps (.submitted engine submission) s
  let (stage, s) := stage.giveUp ports s
  (stage.outcome?.getD .cancelled, s)

/-- The health report. -/
def health {σ : Type} (ports : Ports σ) (engines : Engines) (s : σ) : Health :=
  { queryAvailable := ports.available s engines.query,
    queryPath := engines.query.display,
    visualizationAvailable := ports.available s engines.visualization,
    visualizationPath := engines.visualization.display }

end Ports

end QueryGateway
