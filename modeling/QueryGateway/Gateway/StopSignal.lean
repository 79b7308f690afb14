/-!
# The signal to stop

One side raises the signal, any number of others look at it or wait for it. A wait is over when the signal is raised,
or when nobody is left who could raise it; an abandoned signal can no longer be raised.
-/

namespace QueryGateway

/-- The state of the signal, as everybody sees it. -/
structure StopSignal where
  raised : Bool := false
  abandoned : Bool := false
deriving DecidableEq, Repr, Inhabited

namespace StopSignal

/-- Raises the signal; an abandoned one stays as it is. -/
def raise (s : StopSignal) : StopSignal :=
  if s.abandoned then s else { s with raised := true }

/-- The side that could raise the signal goes away. -/
def abandon (s : StopSignal) : StopSignal :=
  { s with abandoned := true }

/-- Whether a wait for the signal is over. -/
def endsWait (s : StopSignal) : Bool :=
  s.raised || s.abandoned

/-- What the parties to a signal do. -/
inductive Act where
  | raise
  | abandon
  | copy
  | wait
  | look
deriving DecidableEq, Repr, Inhabited

/-- A signal with those who look at it and those who wait for it. A wait that is over stays over. -/
structure Parties where
  signal : StopSignal := {}
  lookers : Nat := 1
  waits : List Bool := []
deriving DecidableEq, Repr, Inhabited

namespace Parties

/-- Every wait notices what the signal has become. -/
def notice (p : Parties) : Parties :=
  { p with waits := p.waits.map (· || p.signal.endsWait) }

/-- One act. -/
def step (p : Parties) : Act → Parties
  | .raise => notice { p with signal := p.signal.raise }
  | .abandon => notice { p with signal := p.signal.abandon }
  | .copy => { p with lookers := p.lookers + 1 }
  | .wait => notice { p with waits := p.waits ++ [false] }
  | .look => p

/-- What each looker sees. -/
def views (p : Parties) : List Bool :=
  List.replicate p.lookers p.signal.raised

end Parties

end StopSignal

end QueryGateway
