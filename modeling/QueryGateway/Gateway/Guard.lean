/-!
# Work that may crash

A piece of work may pause any number of times and then returns a value or crashes with a payload. Guarding it turns a
crash into a message, so that whoever ordered the work can still clean up.
-/

namespace QueryGateway

/-- What a crash carries: a text, or something that is none. -/
inductive Payload where
  | text (message : String)
  | other
deriving DecidableEq, Repr, Inhabited

/-- The message of a crash. -/
def Payload.message : Payload → String
  | text message => message
  | other => "Unknown panic"

/-- A piece of work. -/
inductive Work (α : Type) where
  | pause (rest : Work α)
  | done (value : α)
  | crash (payload : Payload)
deriving Repr

namespace Work

/-- A piece of work behind a number of pauses. -/
def after {α : Type} : Nat → Work α → Work α
  | 0, w => w
  | n + 1, w => pause (after n w)

/-- The value of the work, or the message of its crash. -/
def guarded {α : Type} : Work α → Except String α
  | pause rest => rest.guarded
  | done value => .ok value
  | crash payload => .error payload.message

end Work

end QueryGateway
