import QueryGateway.Input.Lease

/-!
# A store that only keeps books

Where no files are wanted, a ledger stands in for the directory of inputs. It records what was acquired and what was
released, in order, and can be told to refuse everything.
-/

namespace QueryGateway

/-- The books of a store without files. -/
structure Ledger where
  acquired : List (String × String) := []
  released : List String := []
  refusing : Bool := false
deriving DecidableEq, Repr, Inhabited

namespace Ledger

/-- The path that a lease of the ledger carries; no file is there. -/
def pathFor (id : String) : Path :=
  .ofString ("/mock-input-store/input-" ++ id ++ ".json")

/-- Records an acquisition; any name of a request will do. -/
def acquire (l : Ledger) (id document : String) : Except StoreFault Lease × Ledger :=
  if l.refusing then (.error (.io (.other "mock store is read-only")), l)
  else (.ok { id := id, path := pathFor id }, { l with acquired := l.acquired ++ [(id, document)] })

/-- Records a release. -/
def release (l : Ledger) (lease : Lease) : Lease × Ledger :=
  (lease.close, { l with released := l.released ++ [lease.id] })

/-- The acquired names that have not been released, one entry for each acquisition. A release of a name settles every
acquisition of that name. -/
def outstanding (l : Ledger) : List String :=
  (l.acquired.map Prod.fst).filter fun id => !l.released.contains id

end Ledger

end QueryGateway
