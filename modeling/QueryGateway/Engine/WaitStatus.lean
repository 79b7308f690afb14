import QueryGateway.Engine.Report

/-!
# The status of an ended process

The word that the operating system gives for a child: zero is success; with the low seven bits zero the next eight are
the exit code; low seven bits from 1 to 126 are the signal that ended it; any other word describes no end.
-/

namespace QueryGateway

/-- The status word of a process. -/
structure WaitStatus where
  word : UInt32
deriving DecidableEq, Repr, Inhabited

namespace WaitStatus

/-- The status of an exit with a code. -/
def ofCode (code : UInt8) : WaitStatus := ⟨code.toUInt32 <<< 8⟩

/-- The status of an end by a signal. -/
def ofSignal (signal : UInt32) : WaitStatus := ⟨signal⟩

/-- The low seven bits. -/
def low (s : WaitStatus) : Nat := (s.word &&& 0x7F).toNat

/-- The eight bits above the low byte. -/
def high (s : WaitStatus) : Nat := ((s.word >>> 8) &&& 0xFF).toNat

/-- The names of the signals. -/
def signalNames : List (Nat × String) :=
  [(1, "SIGHUP"), (2, "SIGINT"), (3, "SIGQUIT"), (4, "SIGILL"), (5, "SIGTRAP"), (6, "SIGABRT"), (7, "SIGBUS"),
   (8, "SIGFPE"), (9, "SIGKILL"), (10, "SIGUSR1"), (11, "SIGSEGV"), (12, "SIGUSR2"), (13, "SIGPIPE"), (14, "SIGALRM"),
   (15, "SIGTERM"), (16, "SIGSTKFLT"), (17, "SIGCHLD"), (18, "SIGCONT"), (19, "SIGSTOP"), (20, "SIGTSTP"),
   (21, "SIGTTIN"), (22, "SIGTTOU"), (23, "SIGURG"), (24, "SIGXCPU"), (25, "SIGXFSZ"), (26, "SIGVTALRM"),
   (27, "SIGPROF"), (28, "SIGWINCH"), (29, "SIGIO"), (30, "SIGPWR"), (31, "SIGSYS")]

/-- A signal as it is shown: its number, and its name if it has one. -/
def showSignal (n : Nat) : String :=
  match signalNames.lookup n with
  | some name => Nat.repr n ++ " (" ++ name ++ ")"
  | none => Nat.repr n

/-- The words for a status that describes no end. -/
def describeOdd (s : WaitStatus) : String :=
  if s.word &&& 0xFF = 0x7F then "stopped (not terminated) by signal: " ++ showSignal s.high
  else if s.word = 0xFFFF then "continued (WIFCONTINUED)"
  else
    "unrecognised wait status: " ++ toString s.word.toInt32.toInt ++ " 0x" ++
      String.ofList (Nat.toDigits 16 s.word.toNat)

/-- The fault of a status, if it is not success. -/
def fault? (s : WaitStatus) : Option Fault :=
  if s.word = 0 then none
  else if s.low = 0 then some (.exitCode s.high)
  else if s.low < 0x7F then some (.signal s.low)
  else some (.io ("process ended with " ++ s.describeOdd))

end WaitStatus

end QueryGateway
