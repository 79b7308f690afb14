import QueryGateway.Engine.Pump

/-!
# The reading loop

`Pump` says what comes of a run that is watched. Here is the loop that does the watching, with what it does on the way:
it polls the channels that are open, each with a buffer of its own that all its reads are written into; a read of no
bytes makes it let go of the channel, any other is handed on as the front of the buffer; and once both channels are gone
it waits for the process. An iteration of the loop is a read, whether it succeeds or fails. All that the loop does is
kept as a list of acts.
-/

namespace QueryGateway

/-- One thing for each channel. -/
structure PerChannel (α : Type) where
  stdout : α
  stderr : α
deriving DecidableEq, Repr

namespace PerChannel

variable {α : Type}

def get (p : PerChannel α) : Channel → α
  | .stdout => p.stdout
  | .stderr => p.stderr

def set (p : PerChannel α) (channel : Channel) (x : α) : PerChannel α :=
  match channel with
  | .stdout => { p with stdout := x }
  | .stderr => { p with stderr := x }

/-- Whether it is so for one channel at least. -/
def any (p : PerChannel Bool) : Bool :=
  p.stdout || p.stderr

theorem get_set (p : PerChannel α) (channel c : Channel) (x : α) :
    (p.set channel x).get c = if c = channel then x else p.get c := by
  cases channel <;> cases c <;> rfl

theorem any_eq_true_iff {p : PerChannel Bool} : p.any = true ↔ ∃ channel, p.get channel = true := by
  constructor
  · intro h
    rcases Bool.or_eq_true_iff.1 h with h | h
    · exact ⟨.stdout, h⟩
    · exact ⟨.stderr, h⟩
  · rintro ⟨channel, h⟩
    cases channel
    · exact Bool.or_eq_true_iff.2 (.inl h)
    · exact Bool.or_eq_true_iff.2 (.inr h)

end PerChannel

namespace ReadLoop

/-- One turn of a schedule: a poll finds nothing yet, or something happens to the run. -/
inductive Turn where
  | idle (channel : Channel)
  | sight (sight : Sight)
deriving DecidableEq, Repr

/-- Something that the loop does. -/
inductive Act where
  | polls (channel : Channel)
  | handsOn (channel : Channel) (chunk : Bytes)
  | letsGo (channel : Channel)
  | waits
deriving DecidableEq, Repr

/-- Where the loop is: still reading, past it and waiting for the process, or out of it early. -/
inductive Phase where
  | reading
  | waiting
  | overflowed
  | failed (reason : String)
deriving DecidableEq, Repr

/-- How many bytes a buffer holds, which is how many a read may bring. -/
def bufferSize : Nat := 8 * 1024

/-- A read writes its bytes over the front of a buffer; behind them stays what earlier reads left. -/
def overwrite (buffer chunk : Bytes) : Bytes :=
  chunk.take buffer.length ++ buffer.drop chunk.length

end ReadLoop

open ReadLoop in
/-- The loop: which channels it still has, their buffers, what it has taken in, what it will find when it waits for the
process, its iterations so far, and its acts. -/
structure ReadLoop where
  opened : PerChannel Bool := ⟨true, true⟩
  buffers : PerChannel Bytes := ⟨List.replicate bufferSize 0, List.replicate bufferSize 0⟩
  intake : Intake := {}
  child : Option Ending := none
  phase : Phase := .reading
  iterations : Nat := 0
  acts : List Act := []
deriving DecidableEq, Repr

namespace ReadLoop

/-- Whether the loop polls a channel. One that it has let go of has nothing to poll: it is never ready. -/
def polls (l : ReadLoop) (channel : Channel) : Bool :=
  l.phase = .reading && l.opened.get channel

def act (l : ReadLoop) (a : Act) : ReadLoop :=
  { l with acts := l.acts ++ [a] }

/-- Lets go of a channel. The loop goes on as long as it has another. -/
def letGo (l : ReadLoop) (channel : Channel) : ReadLoop :=
  let l := { l with opened := l.opened.set channel false }.act (.letsGo channel)
  if l.opened.any then l else { l with phase := .waiting }.act .waits

/-- Hands on so many bytes from the front of a channel's buffer; under `abort` a loop that had to drop something stops. -/
def handOn (bounds : Bounds) (l : ReadLoop) (channel : Channel) (count : Nat) : ReadLoop :=
  let chunk := (l.buffers.get channel).take count
  let l := { l with intake := l.intake.take bounds.outputLimit channel chunk }.act (.handsOn channel chunk)
  if l.intake.overflowed ∧ bounds.overflow = .abort then { l with phase := .overflowed } else l

/-- A read fills the front of its channel's buffer. -/
def fill (l : ReadLoop) (channel : Channel) (chunk : Bytes) : ReadLoop :=
  { l with buffers := l.buffers.set channel (overwrite (l.buffers.get channel) chunk), iterations := l.iterations + 1 }

/-- An iteration whose read brought these bytes. -/
def receive (bounds : Bounds) (l : ReadLoop) (channel : Channel) (chunk : Bytes) : ReadLoop :=
  if chunk.length = 0 then (l.fill channel chunk).letGo channel
  else (l.fill channel chunk).handOn bounds channel chunk.length

/-- One turn. -/
def step (bounds : Bounds) (l : ReadLoop) : Turn → ReadLoop
  | .idle channel => if l.polls channel then l.act (.polls channel) else l
  | .sight (.read channel chunk) =>
    if l.polls channel then (l.act (.polls channel)).receive bounds channel chunk else l
  | .sight (.readFailed channel reason) =>
    if l.polls channel then
      { l.act (.polls channel) with iterations := l.iterations + 1, phase := .failed reason }
    else l
  | .sight (.ended status) => { l with child := l.child <|> some (.exited status) }
  | .sight (.waitFailed reason) => { l with child := l.child <|> some (.failed reason) }

/-- Takes the turns of a schedule. -/
def run (bounds : Bounds) (l : ReadLoop) (turns : List Turn) : ReadLoop :=
  turns.foldl (step bounds) l

/-- How the loop came to its end, if it did. -/
def outcome (l : ReadLoop) : Option Ending :=
  match l.phase with
  | .reading => none
  | .waiting => l.child
  | .overflowed => some .overflowed
  | .failed reason => some (.failed reason)

end ReadLoop
end QueryGateway
