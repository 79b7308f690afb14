import QueryGateway.Input.Directory

/-!
# Leases in slots

Leases of one directory of inputs, each in a slot of its own, and what may be done to them in any order. A lease may be
acquired or made up for a path somebody names, so that several leases may lead to one file. What comes into an occupied
slot drops the lease that was there, once it has its own. Every deed is written down with the files before and after it.
-/

namespace QueryGateway
namespace Slots

/-- What is done to the lease of a slot. -/
inductive Act where
  | acquire (slot : Nat) (id document : String) (trouble : Trouble)
  | release (slot : Nat)
  | drop (slot : Nat)
  | close (slot : Nat)
  | adopt (slot : Nat) (id : String) (path : Path)
deriving DecidableEq, Repr, Inhabited

/-- What became of a lease, or of the wish for one. -/
inductive Deed where
  | acquired (document : String) (lease : Lease)
  | refused (id document : String) (fault : StoreFault)
  | released (lease : Lease)
  | dropped (lease : Lease)
deriving DecidableEq, Repr

/-- A deed, and the files just before and just after it. -/
structure Moment where
  deed : Deed
  before : Tree
  after : Tree
deriving DecidableEq, Repr

end Slots

/-- The files, the leases in their slots, and what was done so far. -/
structure Slots where
  tree : Tree
  leases : Nat → Option Lease := fun _ => none
  history : List Slots.Moment := []

namespace Slots

/-- Puts a lease into a slot, or empties it. -/
def put (s : Slots) (slot : Nat) (lease? : Option Lease) : Slots :=
  { s with leases := fun i => if i = slot then lease? else s.leases i }

/-- A deed is done, and leaves these files. -/
def record (s : Slots) (deed : Deed) (after : Tree) : Slots :=
  { s with tree := after, history := s.history ++ [⟨deed, s.tree, after⟩] }

/-- The lease of a slot, if there is one, is dropped. -/
def dropHeld (cwd : Place) (slot : Nat) (s : Slots) : Slots :=
  match s.leases slot with
  | some lease => s.record (.dropped lease) (lease.drop cwd s.tree)
  | none => s

/-- One act. -/
def step (d : InputDirectory) (cwd : Place) (s : Slots) : Act → Slots
  | .acquire slot id document trouble =>
    match d.acquire cwd trouble id document s.tree with
    | (.ok lease, t) => ((s.record (.acquired document lease) t).dropHeld cwd slot).put slot (some lease)
    | (.error fault, t) => s.record (.refused id document fault) t
  | .release slot =>
    match s.leases slot with
    | some lease => (s.record (.released lease) (InputDirectory.release cwd lease s.tree).2).put slot none
    | none => s
  | .drop slot => (s.dropHeld cwd slot).put slot none
  | .close slot => s.put slot ((s.leases slot).map Lease.close)
  | .adopt slot id path => (s.dropHeld cwd slot).put slot (some { id := id, path := path })

/-- Any acts, one after the other, from files with no lease on them. -/
def run (d : InputDirectory) (cwd : Place) (initial : Tree) (acts : List Act) : Slots :=
  acts.foldl (step d cwd) { tree := initial }

end Slots

end QueryGateway
