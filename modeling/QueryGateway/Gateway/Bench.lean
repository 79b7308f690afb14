import QueryGateway.Gateway.Lifecycle
import QueryGateway.Gateway.RequestId
import QueryGateway.Input.Directory
import QueryGateway.Input.Ledger

/-!
# A bench for the gateway

The outside of the gateway as a value: names to draw, a store of inputs with or without files, and engines. Engines
may be scripted, one ending after the other, or be anything else that turns a call into a run.
-/

namespace QueryGateway

/-- The supply of names: those given, the last one again and again, or numbered ones when none are given. -/
structure Names where
  given : List String := []
  drawn : Nat := 0
deriving DecidableEq, Repr, Inhabited

/-- Draws a name. -/
def Names.draw (n : Names) : String × Names :=
  let id :=
    match n.given.getLast? with
    | none => RequestId.numbered (n.drawn + 1)
    | some last => n.given.getD n.drawn last
  (id, { n with drawn := n.drawn + 1 })

/-- A store of inputs: books, or a directory. -/
inductive Store where
  | ledger (books : Ledger)
  | directory (place : InputDirectory)
deriving DecidableEq, Repr, Inhabited

/-- Engines that end as their script says: the i-th run as the i-th entry, the last one again and again. -/
structure Script where
  endings : List Run := []
  begun : Nat := 0
  /-- The calls of runs that came to an end. -/
  calls : List Call := []
  missing : List Path := []
deriving Repr, Inhabited

namespace Script

/-- How the next run ends; without a script it ends cleanly and prints nothing. -/
def next (s : Script) : Run :=
  match s.endings.getLast? with
  | none => .finished (.exited "" "")
  | some last => s.endings.getD s.begun last

/-- Begins a run. -/
def invoke (s : Script) (call : Call) : Run × Script :=
  let run := s.next
  let calls := if run = .hanging then s.calls else s.calls ++ [call]
  (run, { s with begun := s.begun + 1, calls := calls })

/-- Whether a program is there: it is unless it was said to be missing. -/
def available (s : Script) (program : Path) : Bool :=
  !s.missing.any program.same

end Script

/-- The outside of the gateway, with engines of some kind. -/
structure Bench (ε : Type) where
  names : Names := {}
  store : Store := .ledger {}
  tree : Tree := {}
  engines : ε

namespace Bench

variable {ε : Type}

/-- Draws a name. -/
def drawId (b : Bench ε) : String × Bench ε :=
  let (id, names) := b.names.draw
  (id, { b with names := names })

/-- Provides an input. -/
def acquire (id document : String) (b : Bench ε) : Except StoreFault Lease × Bench ε :=
  match b.store with
  | .ledger books =>
    let (outcome, books) := books.acquire id document
    (outcome, { b with store := .ledger books })
  | .directory place =>
    let (outcome, tree) := place.acquire [] {} id document b.tree
    (outcome, { b with tree := tree })

/-- Ends a lease. -/
def release (lease : Lease) (b : Bench ε) : Bench ε :=
  match b.store with
  | .ledger books => { b with store := .ledger (books.release lease).2 }
  | .directory _ => { b with tree := (InputDirectory.release [] lease b.tree).2 }

/-- Drops a lease that was not released. -/
def discard (lease : Lease) (b : Bench ε) : Bench ε :=
  { b with tree := lease.drop [] b.tree }

end Bench

/-- The ports of a bench with scripted engines. -/
def Script.ports : Ports (Bench Script) where
  drawId := Bench.drawId
  acquire := Bench.acquire
  release := Bench.release
  discard := Bench.discard
  available b program := b.engines.available program
  invoke call b :=
    let (run, script) := b.engines.invoke call
    (run, { b with engines := script })

end QueryGateway
