/-!
# What can be wrong with a document

Reading stops at the first flaw it meets, so a document with several has the one that comes first.
-/

namespace QueryGateway.Json

/-- Why a text was refused. -/
inductive Flaw where
  /-- The text breaks the grammar. -/
  | malformed
  /-- The text ends before the value does. -/
  | truncated
  /-- The text follows the grammar so far, but the value is of another shape than the reader wants. -/
  | mistyped
deriving DecidableEq, Repr, Inhabited

end QueryGateway.Json
