import QueryGateway.Gateway.RequestId

/-!
# Names numbered by a shared count

Whoever draws a name first counts itself, in one step that nobody can come between, and then writes the name with its
number, while others may count themselves. The count is a word of 64 bits.
-/

namespace QueryGateway

/-- Where somebody's draw stands. -/
inductive Draw where
  | waiting
  /-- Counted; this many were counted before. -/
  | counted (before : UInt64)
  | named (id : String)
deriving DecidableEq, Repr, Inhabited

/-- The count of all draws so far, and where everybody's stands. -/
structure Numbering where
  count : UInt64 := 0
  draws : Nat → Draw := fun _ => .waiting

namespace Numbering

/-- Somebody's next step: it is counted, or it gets its name. -/
def step (n : Numbering) (who : Nat) : Numbering :=
  match n.draws who with
  | .waiting =>
    { count := n.count + 1, draws := fun i => if i = who then .counted n.count else n.draws i }
  | .counted before =>
    { n with draws := fun i => if i = who then .named (RequestId.numbered (before + 1).toNat) else n.draws i }
  | .named _ => n

/-- Any steps, one after the other. Everybody draws once. -/
def run (steps : List Nat) : Numbering :=
  steps.foldl step {}

end Numbering

end QueryGateway
