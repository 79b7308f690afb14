import QueryGateway.Gateway.StopSignal

/-!
# Those who watch the signal, one by one

`Parties` counts the lookers and lists the waits. Here everybody has a number: a looker may be copied, may be used up
by a wait, or may go away, and a wait may be given up before it is over. A signal that nobody watches any more cannot
be raised; there is nobody left to see the difference.
-/

namespace QueryGateway.StopSignal

/-- Somebody who watches the signal: a looker, a wait that is over or not, or one who has gone. -/
inductive Watcher where
  | looker
  | waiter (ended : Bool)
  | gone
deriving DecidableEq, Repr, Inhabited

namespace Watcher

/-- Whether the signal would still reach somebody. -/
def listens : Watcher → Bool
  | looker => true
  | waiter ended => !ended
  | gone => false

/-- A wait notices what the signal has become. -/
def notice (s : StopSignal) : Watcher → Watcher
  | waiter ended => waiter (ended || s.endsWait)
  | watcher => watcher

/-- Whether a wait is over; lookers and those who have gone are no waits. -/
def ended? : Watcher → Option Bool
  | waiter ended => some ended
  | _ => none

end Watcher

/-- What the side that raises the signal and those who watch it do. -/
inductive Move where
  | raise
  | abandon
  | copy (i : Nat)
  | wait (i : Nat)
  | leave (i : Nat)
  | look
deriving DecidableEq, Repr, Inhabited

/-- A signal with everybody who has ever watched it. -/
structure Watch where
  signal : StopSignal := {}
  watchers : List Watcher := [.looker]
deriving DecidableEq, Repr, Inhabited

namespace Watch

/-- Every wait notices what the signal has become. -/
def notice (w : Watch) : Watch :=
  { w with watchers := w.watchers.map (Watcher.notice w.signal) }

/-- Whether a number is that of a looker. -/
def looks (w : Watch) (i : Nat) : Bool :=
  w.watchers[i]? = some .looker

/-- One move. A move of somebody who cannot make it changes nothing. -/
def step (w : Watch) : Move → Watch
  | .raise => if w.watchers.any Watcher.listens then notice { w with signal := w.signal.raise } else w
  | .abandon => notice { w with signal := w.signal.abandon }
  | .copy i => if w.looks i then { w with watchers := w.watchers ++ [.looker] } else w
  | .wait i => if w.looks i then notice { w with watchers := w.watchers.set i (.waiter false) } else w
  | .leave i =>
    if (w.watchers[i]?.map Watcher.listens).getD false then { w with watchers := w.watchers.set i .gone } else w
  | .look => w

/-- The moves one after the other, from a fresh signal with one looker. -/
def run (moves : List Move) : Watch :=
  moves.foldl step {}

/-- What a looker sees. -/
def view? (w : Watch) (i : Nat) : Option Bool :=
  if w.looks i then some w.signal.raised else none

end Watch

end QueryGateway.StopSignal
