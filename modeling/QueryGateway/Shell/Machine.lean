import QueryGateway.Engine.Pump
import QueryGateway.Files.Tree
import QueryGateway.Shell.Command

/-!
# The machine that scripts run on

Files, descriptors, processes and a clock. Time passes only where a command waits. Processes that run at the same time
are run one after the other from the same point of the clock, and what they print carries the time at which it was
printed; whoever looks on sorts it. Beyond its horizon the machine runs nothing: what reaches it is still going when
everybody has stopped looking.
-/

namespace QueryGateway.Shell

/-- Where a descriptor leads. -/
inductive Target where
  /-- One of the channels that somebody outside reads. -/
  | channel (c : Channel)
  /-- An open file, by the number of its handle. -/
  | file (handle : Nat)
  /-- The writing end of a pipe. -/
  | pipe (number : Nat)
  /-- An input that is read piece by piece. -/
  | input (number : Nat)
  /-- A device: null, zero or full. -/
  | device (kind : Nat)
deriving DecidableEq, Repr, Inhabited

/-- The null device. -/
def nullDevice : Nat := 3

/-- The device that gives zero bytes. -/
def zeroDevice : Nat := 5

/-- The device that is always full. -/
def fullDevice : Nat := 7

/-- An open file: where it is, where the next byte goes, and whether writing always goes to its end. -/
structure Handle where
  place : Place
  offset : Nat := 0
  append : Bool := false
deriving Repr, Inhabited

/-- Something to read: pieces with the times at which they arrive, and the time at which it ends. -/
structure Feed where
  pieces : List (Nat × Octets) := []
  ends : Nat := 0
deriving Repr, Inhabited

/-- What was written to a pipe: the newest piece first, with its times, and how much it is in all. -/
structure Conduit where
  pieces : List (Nat × Octets) := []
  size : Nat := 0
deriving Repr, Inhabited

/-- Something printed to the outside, and by which process. -/
structure Print where
  time : Nat
  channel : Channel
  octets : Octets
  process : Nat
deriving Repr, Inhabited

/-- A channel to the outside that a process let go of, and when. -/
structure Release where
  process : Nat
  channel : Channel
  time : Nat
deriving Repr, Inhabited

/-- A process that was sent to the background: when it ends and how, and the signal that ended it if one did. -/
structure Job where
  process : Nat
  ends : Nat
  status : Nat
  signal : Option Nat := none
deriving Repr, Inhabited

/-- A signal on its way to a process. -/
structure Pending where
  process : Nat
  time : Nat
  signal : Nat
deriving Repr, Inhabited

/-- The machine. -/
structure Machine where
  tree : Tree
  clock : Nat := 0
  /-- The time beyond which nothing matters. -/
  horizon : Nat
  /-- How many more bytes may be printed to the outside before nothing more matters. -/
  room : Nat
  /-- Whether more than that was printed. -/
  overfull : Bool := false
  /-- How many more commands may be run. -/
  moves : Nat := 300000
  prints : List Print := []
  releases : List Release := []
  handles : List (Nat × Handle) := []
  pipes : List (Nat × Conduit) := []
  feeds : List (Nat × Feed) := []
  jobs : List Job := []
  pending : List Pending := []
  /-- The next number for a process, a handle, a pipe or a feed. -/
  next : Nat := 4242
deriving Inhabited

/-- A variable of a shell. -/
structure Variable where
  value : Option Octets
  exported : Bool := false
  fixed : Bool := false
deriving Repr, Inhabited

/-- A process that runs a script. -/
structure Session where
  /-- The name under which it was started. -/
  name : Octets
  arguments : List Octets := []
  bindings : List (Octets × Variable) := []
  functions : List (Octets × Command) := []
  status : Nat := 0
  process : Nat
  /-- The process that `$$` stands for. -/
  leader : Nat
  lastJob : Option Nat := none
  /-- What to do on a signal; zero stands for the end of the shell. -/
  traps : List (Nat × Octets) := []
  descriptors : List (Nat × Target) := []
  cwd : Place := []
  line : Nat := 1
  stopOnError : Bool := false
  stopOnUnset : Bool := false
  noGlob : Bool := false
  /-- Whether every command is shown before it is run. -/
  traced : Bool := false
  /-- Whether a failing command is being tested, so that it does not stop the shell. -/
  tested : Bool := false
  /-- The variables that the running function made its own, as they were before. -/
  locals : List (Octets × Option Variable) := []
  /-- Whether the text that is run was handed to `eval`. -/
  evaluating : Bool := false
  /-- How many functions are running. -/
  calls : Nat := 0
  /-- How many loops are running. -/
  loops : Nat := 0
deriving Inhabited

/-- How to go on after a command. -/
inductive Flow where
  | next
  /-- The shell ends. -/
  | exit
  | killed (signal : Nat)
  /-- The horizon is reached. -/
  | late
  /-- More was printed than anybody will read. -/
  | flooded
  | leave
  | escape (levels : Nat)
  | again (levels : Nat)
deriving DecidableEq, Repr, Inhabited

/-- A running shell on its machine. -/
structure State where
  shell : Session
  machine : Machine
  flow : Flow := .next
deriving Inhabited

namespace State

/-- Whether the next command is to be run. -/
def goes (st : State) : Bool := st.flow = .next

/-- The state with a status for the last command. -/
def withStatus (st : State) (status : Nat) : State :=
  { st with shell := { st.shell with status := status } }

/-- The state with a changed machine. -/
def onMachine (st : State) (f : Machine → Machine) : State :=
  { st with machine := f st.machine }

/-- The state with a changed shell. -/
def onShell (st : State) (f : Session → Session) : State :=
  { st with shell := f st.shell }

/-! ## Time -/

/-- Waits until a time. -/
def waitUntil (st : State) (time : Nat) : State :=
  if st.machine.horizon ≤ time then
    { st.onMachine (fun m => { m with clock := m.horizon }) with flow := .late }
  else st.onMachine fun m => { m with clock := max m.clock time }

/-- Waits for a number of nanoseconds. -/
def pass (st : State) (nanoseconds : Nat) : State :=
  st.waitUntil (st.machine.clock + nanoseconds)

/-- Counts one command; a script that takes too many is taken to go on for ever. -/
def tick (st : State) : State :=
  match st.machine.moves with
  | 0 => { st.onMachine (fun m => { m with clock := m.horizon }) with flow := .late }
  | n + 1 => st.onMachine fun m => { m with moves := n }

/-! ## Numbers -/

/-- Takes a fresh number. -/
def fresh (st : State) : Nat × State :=
  (st.machine.next, st.onMachine fun m => { m with next := m.next + 1 })

/-! ## Descriptors -/

/-- Where a descriptor leads. -/
def target? (st : State) (descriptor : Nat) : Option Target :=
  st.shell.descriptors.lookup descriptor

/-- Lets a descriptor lead somewhere, or nowhere. -/
def point (descriptor : Nat) (target : Option Target) (sh : Session) : Session :=
  let others := sh.descriptors.filter (·.1 ≠ descriptor)
  { sh with descriptors := (target.map fun t => (descriptor, t)).toList ++ others }

/-- Whether a shell holds a channel to the outside open. -/
def holds (sh : Session) (c : Channel) : Bool :=
  sh.descriptors.any fun (_, t) => t = .channel c

/-- Records that a process lets go of the channels that it held at a time and holds no longer. -/
def releaseFrom (held : Session) (now : Option Session) (time : Nat) (m : Machine) : Machine :=
  let gone := [Channel.stdout, .stderr].filter fun c => holds held c && !(now.any (holds · c))
  { m with releases := gone.map (fun c => ⟨held.process, c, time⟩) ++ m.releases }

/-- The content of a file at a place. -/
def content (t : Tree) (place : Place) : Bytes :=
  match t.at? place with
  | some (.file content _) => content
  | _ => []

/-- Puts bytes into a file from an offset on; a gap is filled with zeros. -/
def patch (old : Bytes) (offset : Nat) (data : Bytes) : Bytes :=
  old.take offset ++ List.replicate (offset - old.length) 0 ++ data ++ old.drop (offset + data.length)

/-- Writes to an open file. -/
def writeFile (number : Nat) (data : Bytes) (m : Machine) : Machine :=
  match m.handles.lookup number with
  | none => m
  | some h =>
    match m.tree.at? h.place with
    | some (.file old mode) =>
      let offset := if h.append then old.length else h.offset
      let tree := m.tree.put h.place (.file (patch old offset data) mode)
      let h := { h with offset := offset + data.length }
      { m with tree := tree, handles := (number, h) :: m.handles.filter (·.1 ≠ number) }
    | _ => m

/-- How much a pipe takes before its writer is taken to go on for ever. -/
def pipeLimit : Nat := 2000000

/-- Prints to the outside. What nobody will read any more is not kept. -/
def printTo (st : State) (channel : Channel) (data : Octets) : State :=
  let m := st.machine
  let print : Print := ⟨m.clock, channel, data, st.shell.process⟩
  let st := st.onMachine fun m => { m with prints := print :: m.prints, room := m.room - data.length }
  if m.room < data.length then { st.onMachine fun m => { m with overfull := true } with flow := .flooded } else st

/-- Writes to a pipe. -/
def feedPipe (st : State) (number : Nat) (data : Octets) : State :=
  let old := (st.machine.pipes.lookup number).getD {}
  let now : Conduit := { pieces := (st.machine.clock, data) :: old.pieces, size := old.size + data.length }
  let st := st.onMachine fun m => { m with pipes := (number, now) :: m.pipes.filter (·.1 ≠ number) }
  if pipeLimit < now.size then { st with flow := .flooded } else st

/-- Writes to a descriptor; fails when it leads nowhere or to where nothing can be written. -/
def write (st : State) (descriptor : Nat) (data : Octets) : Option Errno × State :=
  if data = [] then (none, st)
  else
    match st.target? descriptor with
    | none => (some ⟨9⟩, st)
    | some (.input _) => (some ⟨9⟩, st)
    | some (.device kind) => (if kind = fullDevice then some ⟨28⟩ else none, st)
    | some (.channel c) => (none, st.printTo c data)
    | some (.pipe n) => (none, st.feedPipe n data)
    | some (.file n) => (none, st.onMachine (writeFile n (Octets.toBytes data)))

/-- Prints to the error channel; nobody is told when that fails. -/
def complain (st : State) (message : String) : State :=
  (st.write 2 (Octets.ofString (message ++ "\n"))).2

/-- Prints octets to the error channel. -/
def complainOctets (st : State) (message : Octets) : State :=
  (st.write 2 (message ++ ['\n'])).2

/-! ## Reading -/

/-- What is left to read from an open file. -/
def fileRest (m : Machine) (number : Nat) : Octets :=
  match m.handles.lookup number with
  | none => []
  | some h => Octets.ofBytes ((content m.tree h.place).drop h.offset)

/-- Moves the offset of an open file. -/
def skip (number count : Nat) (m : Machine) : Machine :=
  match m.handles.lookup number with
  | none => m
  | some h =>
    let moved := { h with offset := h.offset + count }
    { m with handles := (number, moved) :: m.handles.filter (·.1 ≠ number) }

/-- Everything that can be read from a descriptor, piece by piece with the times of arrival, and the time of the end. -/
def readAll (st : State) (descriptor : Nat) : Option Feed × State :=
  let now := st.machine.clock
  match st.target? descriptor with
  | none => (none, st)
  | some (.file n) =>
    let rest := fileRest st.machine n
    (some ⟨[(now, rest)], now⟩, st.onMachine (skip n rest.length))
  | some (.input n) =>
    let feed := (st.machine.feeds.lookup n).getD {}
    (some feed, st.onMachine fun m =>
      { m with feeds := (n, { feed with pieces := [] }) :: m.feeds.filter (·.1 ≠ n) })
  | some (.device kind) =>
    if kind = zeroDevice then (some ⟨[(now, List.replicate pipeLimit '\x00')], st.machine.horizon⟩, st)
    else (some ⟨[], now⟩, st)
  | some _ => (some ⟨[], st.machine.horizon⟩, st)

/-- Takes one line from a feed: the line, whether its newline was there, what is left, and the time of its last byte. -/
def takeLine (ends : Nat) : Octets → Nat → List (Nat × Octets) → Octets × Bool × List (Nat × Octets) × Nat
  | acc, _, [] => (acc, false, [], ends)
  | acc, _, (time, data) :: rest =>
    let line := data.takeWhile (· ≠ '\n')
    match data.dropWhile (· ≠ '\n') with
    | _ :: after => (acc ++ line, true, (time, after) :: rest, time)
    | [] => takeLine ends (acc ++ line) time rest

/-- Reads one line from the input; whether it was complete. Waits until it has arrived. -/
def readLine (st : State) : Octets × Bool × State :=
  match st.target? 0 with
  | some (.file n) =>
    let rest := fileRest st.machine n
    let line := rest.takeWhile (· ≠ '\n')
    let complete := line.length < rest.length
    (line, complete, st.onMachine (skip n (line.length + if complete then 1 else 0)))
  | some (.input n) =>
    let feed := (st.machine.feeds.lookup n).getD {}
    let (line, complete, left, time) := takeLine feed.ends [] 0 feed.pieces
    let st := st.onMachine fun m => { m with feeds := (n, { feed with pieces := left }) :: m.feeds.filter (·.1 ≠ n) }
    (line, complete, st.waitUntil time)
  | _ => ([], false, st)

/-! ## Variables -/

/-- A variable of the shell. -/
def valueOf (sh : Session) (name : Octets) : Option Octets :=
  (sh.bindings.lookup name).bind (·.value)

/-- Gives a variable a value; an exported one stays exported. -/
def assign (name value : Octets) (sh : Session) : Session :=
  let old := sh.bindings.lookup name
  let entry : Variable := { value := some value, exported := old.any (·.exported), fixed := old.any (·.fixed) }
  { sh with bindings := (name, entry) :: sh.bindings.filter (·.1 ≠ name) }

/-- Takes a variable away. -/
def unassign (name : Octets) (sh : Session) : Session :=
  { sh with bindings := sh.bindings.filter (·.1 ≠ name) }

/-- Exports a variable. -/
def exportName (name : Octets) (sh : Session) : Session :=
  let value := valueOf sh name
  { sh with bindings := (name, { value := value, exported := true }) :: sh.bindings.filter (·.1 ≠ name) }

/-- The variables that a program started by the shell sees. -/
def environment (sh : Session) : List (Octets × Octets) :=
  sh.bindings.reverse.filterMap fun (name, v) => if v.exported then v.value.map fun x => (name, x) else none

/-! ## Ends -/

/-- Ends the shell with a status. -/
def exitWith (st : State) (status : Nat) : State :=
  { st.withStatus (status % 256) with flow := .exit }

/-- The words in front of what the shell itself complains about. -/
def lead (sh : Session) : Octets :=
  sh.name ++ [':', ' '] ++ Octets.ofNat sh.line ++ [':', ' ']

/-- Complains in the name of the shell. -/
def complainShell (st : State) (message : Octets) : State :=
  st.complainOctets (lead st.shell ++ message)

/-- Complains in the name of the shell and of one of its commands, and sets a status. -/
def complainAs (st : State) (command message : Octets) (status : Nat) : State :=
  (st.complainShell (command ++ [':', ' '] ++ message)).withStatus status

end State

end QueryGateway.Shell
