import QueryGateway.Text.Utf8

/-!
# Output taken in under a limit

A run prints on two channels that share one limit. Of each read as much is kept as still fits; from the first byte
that had to be dropped on, the intake is overflowed and stays so.
-/

namespace QueryGateway

/-- The two channels on which a run prints. -/
inductive Channel where
  | stdout
  | stderr
deriving DecidableEq, Repr, Inhabited

/-- What has been taken in so far. -/
structure Intake where
  stdout : Bytes := []
  stderr : Bytes := []
  overflowed : Bool := false
deriving DecidableEq, Repr, Inhabited

namespace Intake

/-- What was kept of a channel. -/
def kept (i : Intake) : Channel → Bytes
  | .stdout => i.stdout
  | .stderr => i.stderr

/-- How many bytes were kept. -/
def total (i : Intake) : Nat :=
  i.stdout.length + i.stderr.length

/-- Takes in one read: as much of it as fits below the limit. -/
def take (limit : Nat) (i : Intake) (channel : Channel) (chunk : Bytes) : Intake :=
  let room := limit - i.total
  let fits := chunk.take room
  let overflowed := i.overflowed || room < chunk.length
  match channel with
  | .stdout => { i with stdout := i.stdout ++ fits, overflowed := overflowed }
  | .stderr => { i with stderr := i.stderr ++ fits, overflowed := overflowed }

/-- Takes in a sequence of reads. -/
def takeAll (limit : Nat) (i : Intake) (reads : List (Channel × Bytes)) : Intake :=
  reads.foldl (fun i (channel, chunk) => i.take limit channel chunk) i

end Intake

end QueryGateway
