import QueryGateway.Files.Tree

/-!
# Inputs that live as long as a request

A lease names the request and the file that holds its input. Closing it removes the file; a lease that is dropped
without having been closed removes its file too, so that a request that is given up leaves nothing behind.
-/

namespace QueryGateway

/-- The hold of one request on its input file. -/
structure Lease where
  id : String
  path : Path
  closed : Bool := false
deriving DecidableEq, Repr, Inhabited

/-- Why an input could not be provided. -/
inductive StoreFault where
  | io (fault : FileFault)
  | unsafeId (id : String)
deriving DecidableEq, Repr, Inhabited

/-- The wording of a failure. -/
def StoreFault.message : StoreFault → String
  | io fault => "Failed to write transient input: " ++ fault.message
  | unsafeId id => "Invalid request id: " ++ id

namespace Lease

/-- Marks a lease as closed: dropping it does nothing any more. -/
def close (lease : Lease) : Lease := { lease with closed := true }

/-- Removes the file of a lease, if it can be removed; nobody is told when it cannot. -/
def removeFile (lease : Lease) (cwd : Place) (t : Tree) : Tree :=
  match t.remove cwd lease.path with
  | .ok t => t
  | .error _ => t

/-- Drops a lease: the file of one that was not closed is removed. -/
def drop (lease : Lease) (cwd : Place) (t : Tree) : Tree :=
  if lease.closed then t else lease.removeFile cwd t

end Lease

end QueryGateway
