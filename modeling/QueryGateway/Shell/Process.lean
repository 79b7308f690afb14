import QueryGateway.Shell.Expansion
import QueryGateway.Shell.Tools

/-!
# Processes

A process is a shell state on the shared machine. A child runs at once, from the clock of its parent; a parent that
waits takes its clock over, one that does not keeps its own. What a process may do besides its own commands — run more
script text, call a function, become another program — it is given as powers, so that how deep these may nest is
decided in one place.
-/

namespace QueryGateway.Shell

/-- What commands may use to go deeper. -/
structure Powers where
  /-- Runs script text. With the flag the process ends with it, so that its last program needs no process of its own. -/
  script : Bool → Octets → State → State
  /-- Runs the body of a function. -/
  command : Command → State → State
  /-- Becomes a program: its name and its arguments. -/
  program : List Octets → State → State

/-! ## Signals -/

namespace Signal

/-- The signal that nothing catches. -/
def kill : Nat := 9

/-- The signals that stop a process unless it says otherwise. -/
def stopping : List Nat := [19, 20, 21, 22]

/-- The signals that do nothing unless a process says otherwise. -/
def quiet : List Nat := [0, 17, 18, 23, 28]

/-- The words for a death by a signal. -/
def deaths : List (Nat × String) :=
  [(1, "Hangup"), (3, "Quit"), (4, "Illegal instruction"), (5, "Trace/breakpoint trap"), (6, "Aborted"),
   (7, "Bus error"), (8, "Floating point exception"), (9, "Killed"), (10, "User defined signal 1"),
   (11, "Segmentation fault"), (12, "User defined signal 2"), (14, "Alarm clock"), (15, "Terminated"),
   (16, "Stack fault"), (24, "CPU time limit exceeded"), (25, "File size limit exceeded"),
   (26, "Virtual timer expired"), (27, "Profiling timer expired"), (29, "I/O possible"), (30, "Power failure"),
   (31, "Bad system call")]

/-- What a shell says when a child of its dies by a signal. -/
def obituary (n : Nat) : Option String :=
  if n = 2 ∨ n = 13 then none else some ((deaths.lookup n).getD ("Real-time signal " ++ Nat.repr (n - 34)))

end Signal

namespace State

/-- The status that a process leaves behind for its parent. -/
def endStatus (st : State) : Nat :=
  match st.flow with
  | .killed n => 128 + n
  | _ => st.shell.status

/-- A process lets go of everything it holds. -/
def letGo (st : State) : State :=
  st.onMachine (releaseFrom st.shell none st.machine.clock)

/-- What a process did after a time is taken back: it had ended by then. -/
def cutProcess (process time : Nat) (m : Machine) : Machine :=
  { m with
    prints := m.prints.filter fun p => p.process ≠ process || p.time ≤ time,
    releases := m.releases.map fun r => if r.process = process then { r with time := min r.time time } else r }

end State

namespace Process

/-- A signal reaches the process that runs: its trap is run, or it does what the signal does by itself. -/
def receive (p : Powers) (n : Nat) (st : State) : State :=
  match (if n = Signal.kill then none else st.shell.traps.lookup n) with
  | some [] => st
  | some action =>
    let status := st.shell.status
    let st := p.script false action st
    if st.goes then st.withStatus status else st
  | none =>
    if Signal.quiet.contains n then st
    else if Signal.stopping.contains n then st.waitUntil st.machine.horizon
    else { st with flow := .killed n }

/-- A signal that was sent to the running process while a child of its ran. The process may have been killed before
its child came to an end. -/
def heed (p : Powers) (st : State) : State :=
  let reached (s : Pending) : Bool := s.process = st.shell.process && s.time ≤ st.machine.clock
  match st.machine.pending.find? reached with
  | none => st
  | some signal =>
    let st := st.onMachine fun m => { m with pending := m.pending.filter fun s => !reached s }
    match receive p signal.signal { st with flow := .next } with
    | { flow := .killed n, shell := sh, machine := m } =>
      { flow := .killed n, shell := sh, machine := { m with clock := signal.time } }
    | after => if st.goes then after else st

/-- The end of a process: what it set up for its exit is run. -/
def finish (p : Powers) (st : State) : State :=
  match st.flow with
  | .killed _ => st
  | .late => st
  | .flooded => st
  | _ =>
    match st.shell.traps.lookup 0 with
    | none => { st with flow := .exit }
    | some action =>
      let status := st.shell.status
      let st := st.onShell fun sh => { sh with traps := sh.traps.filter fun t => t.1 ≠ 0 }
      let st := p.script false action { st with flow := .next }
      if st.goes then (st.withStatus status).exitWith status else st

/-- Runs a child from the clock of its parent to its end. Of the traps it only keeps what is to be ignored. -/
def fork (p : Powers) (body : State → State) (st : State) : State :=
  let (process, st) := st.fresh
  let traps := st.shell.traps.filter fun t => t.2 = []
  let child := st.onShell fun sh => { sh with process := process, traps := traps, loops := 0 }
  (finish p (body child)).letGo

/-- Runs a child beside its parent, with a part of the moves that are left: it may go on for ever without keeping the
others from theirs. -/
def forkBeside (p : Powers) (body : State → State) (st : State) : State :=
  let moves := st.machine.moves
  let child := fork p body (st.onMachine fun m => { m with moves := moves / 4 })
  child.onMachine fun m => { m with moves := moves - (moves / 4 - m.moves) }

/-- What a shell says about how its child ended. -/
def announce (flow : Flow) (st : State) : State :=
  match flow with
  | .killed n =>
    match Signal.obituary n with
    | some words => st.complain words
    | none => st
  | _ => st

/-- A parent goes on after the end of a child that it waited for. -/
def rejoin (p : Powers) (parent child : State) : State :=
  let st := { parent with machine := child.machine }
  match child.flow with
  | .late => heed p { st with flow := .late }
  | .flooded => { st with flow := .flooded }
  | flow => heed p ((announce flow st).withStatus child.endStatus)

/-- Runs a child and waits for it. -/
def run (p : Powers) (body : State → State) (st : State) : State :=
  rejoin p st (fork p body st)

/-- Runs a child in the background, with nothing to read. -/
def background (p : Powers) (body : State → State) (st : State) : State :=
  let started := st.machine.clock
  let process := st.machine.next
  let child := forkBeside p (fun c => body (c.onShell (State.point 0 (some (.device nullDevice))))) st
  let signal := match child.flow with
    | .killed n => some n
    | _ => none
  let job : Job := ⟨process, child.machine.clock, child.endStatus, signal⟩
  let machine := { child.machine with clock := started, jobs := job :: child.machine.jobs }
  let st := { st with machine := machine, shell := { st.shell with lastJob := some process, status := 0 } }
  heed p (if child.flow = .flooded then { st with flow := .flooded } else st)

/-- Runs script text in a child and takes what it prints. -/
def substitute (p : Powers) : Substitute := fun source st =>
  let (pipe, st) := st.fresh
  let child := fork p (fun c => p.script true source (c.onShell (State.point 1 (some (.pipe pipe))))) st
  let printed := ((child.machine.pipes.lookup pipe).getD {}).pieces.reverse
  let st := rejoin p st (if child.flow = .flooded then child.waitUntil child.machine.horizon else child)
  ((printed.flatMap Prod.snd).filter (· ≠ '\x00'), st)

/-! ## Pipelines -/

/-- Runs one stage of a pipeline that has another behind it: what it prints becomes the input of the next. Gives the
number of that input, the number of the process, and the process at its end. -/
def upstream (p : Powers) (body : State → State) (input : Option Nat) (st : State) : Nat × Nat × State :=
  let (pipe, st) := st.fresh
  let process := st.machine.next
  let child := forkBeside p (fun c =>
    let c := c.onShell (State.point 1 (some (.pipe pipe)))
    body (match input with
      | some n => c.onShell (State.point 0 (some (.input n)))
      | none => c)) st
  let (number, child) := child.fresh
  let endless := child.flow = .flooded || child.flow = .late
  let feed : Feed :=
    { pieces := ((child.machine.pipes.lookup pipe).getD {}).pieces.reverse,
      ends := if endless then child.machine.horizon else child.machine.clock }
  (number, process, child.onMachine fun m => { m with feeds := (number, feed) :: m.feeds })

/-- The time at which a process ends that feeds a reader: its own end, or when it first prints after the reader has
gone. -/
def producerEnd (child : State) (number readerEnd : Nat) (own : Nat) : Nat :=
  let pieces := ((child.machine.feeds.lookup number).getD {}).pieces
  match pieces.find? fun piece => readerEnd ≤ piece.1 with
  | some (time, _) => min own time
  | none => own

/-- Runs the stages of a pipeline, all from the same time; the status is that of the last, and the end that of the
latest. -/
def pipeline (p : Powers) : List (State → State) → Option Nat → State → State
  | [], _, st => st
  | [last], input, st =>
    run p (fun c => last (match input with
      | some n => c.onShell (State.point 0 (some (.input n)))
      | none => c)) st
  | stage :: rest, input, st =>
    let started := st.machine.clock
    let (number, process, child) := upstream p stage input st
    if child.machine.overfull then rejoin p st { child with flow := .flooded }
    else
      let after := pipeline p rest (some number) { st with machine := { child.machine with clock := started } }
      match after.flow with
      | .next =>
        let readerEnd := after.machine.clock
        let endless := child.flow = .flooded || child.flow = .late
        let own := if endless then child.machine.horizon else child.machine.clock
        let ended := if child.flow = .flooded then readerEnd else producerEnd child number readerEnd own
        let after := after.onMachine (if ended < own then State.cutProcess process ended else id)
        let after := announce child.flow after
        if ended ≤ readerEnd then after else after.waitUntil ended
      | _ => after

/-! ## Sending signals and waiting -/

/-- Ends a background job by a signal. -/
def endJob (n : Nat) (job : Job) (m : Machine) : Machine :=
  let dead : Job := { job with ends := m.clock, status := 128 + n, signal := some n }
  State.cutProcess job.process m.clock { m with jobs := dead :: m.jobs.filter fun j => j.process ≠ job.process }

/-- Sends a signal to a process. Gives whether there was one. -/
def send (p : Powers) (n process : Nat) (st : State) : Bool × State :=
  if process = st.shell.process then (true, receive p n st)
  else
    match st.machine.jobs.find? fun j => j.process = process with
    | some job =>
      if job.ends ≤ st.machine.clock then (false, st)
      else if Signal.quiet.contains n then (true, st)
      else if Signal.stopping.contains n then
        (true, st.onMachine fun m =>
          { m with jobs := { job with ends := m.horizon } :: m.jobs.filter fun j => j.process ≠ process })
      else (true, st.onMachine (endJob n job))
    | none =>
      if process = st.shell.leader then
        (true, st.onMachine fun m => { m with pending := m.pending ++ [⟨process, m.clock, n⟩] })
      else (false, st)

/-- Waits for one job; its status is left behind. A process that is no job of this shell is not waited for. -/
def waitFor (process : Nat) (st : State) : State :=
  match st.machine.jobs.find? fun j => j.process = process with
  | some job =>
    let st := (st.waitUntil (max job.ends st.machine.clock)).withStatus job.status
    match job.signal.bind Signal.obituary with
    | some words => if st.goes then st.complain words else st
    | none => st
  | none => st.withStatus 127

/-- Waits for all jobs. -/
def waitAll (st : State) : State :=
  (st.waitUntil (st.machine.jobs.foldl (fun t j => max t j.ends) st.machine.clock)).withStatus 0

/-! ## Redirections -/

/-- The devices that stand for the descriptors of the process. -/
def descriptorDevices : List Nat := [0, 1, 2]

/-- Why a file cannot be opened, in the words of the shell. -/
def openFault (creating : Bool) (f : FileFault) : Octets :=
  match f with
  | .os e =>
    if e = .notFound ∨ e = .notDirectory then (if creating then "Directory nonexistent" else "No such file").toList
    else e.text.toList
  | .other text => text.toList

/-- A fresh handle on a file. -/
def handleOn (place : Place) (append : Bool) (st : State) : Target × State :=
  let (number, st) := st.fresh
  let handle : Handle := { place := place, append := append }
  (.file number, st.onMachine fun m => { m with handles := (number, handle) :: m.handles })

/-- Opens a file for reading. -/
def openRead (o : Octets) (st : State) : Except Octets (Option Target × State) :=
  match st.machine.tree.find st.shell.cwd (Condition.path o) with
  | .ok (_, .device n) => .ok (if descriptorDevices.contains n then st.target? n else some (.device n), st)
  | .ok (place, _) =>
    let (target, st) := handleOn place false st
    .ok (some target, st)
  | .error f => .error ("cannot open ".toList ++ o ++ ": ".toList ++ openFault false f)

/-- Opens a file for writing: emptied unless it is added to. -/
def openWrite (append : Bool) (o : Octets) (st : State) : Except Octets (Option Target × State) :=
  let refuse (f : FileFault) : Except Octets (Option Target × State) :=
    .error ("cannot create ".toList ++ o ++ ": ".toList ++ openFault true f)
  match st.machine.tree.find st.shell.cwd (Condition.path o) with
  | .ok (_, .device n) => .ok (if descriptorDevices.contains n then st.target? n else some (.device n), st)
  | .ok (_, .directory) => refuse (.os .isDirectory)
  | outcome =>
    let old := match outcome with
      | .ok (_, .file content _) => if append then content else []
      | _ => []
    match st.machine.tree.write st.shell.cwd (Condition.path o) old with
    | .error f => refuse f
    | .ok tree =>
      match tree.find st.shell.cwd (Condition.path o) with
      | .error f => refuse f
      | .ok (place, _) =>
        let (target, st) := handleOn place append (st.onMachine fun m => { m with tree := tree })
        .ok (some target, st)

/-- Where a copied descriptor leads. -/
def copied (o : Octets) (st : State) : Except Octets (Option Target × State) :=
  if o = ['-'] then .ok (none, st)
  else if (Octets.nat? o).isNone then .error "Syntax error: Bad fd number".toList
  else
    match (Octets.nat? o).bind st.target? with
    | some target => .ok (some target, st)
    | none => .error (o ++ ": Bad file descriptor".toList)

/-- A text to be read. -/
def hereText (o : Octets) (st : State) : Target × State :=
  let (number, st) := st.fresh
  let feed : Feed := { pieces := [(st.machine.clock, o)], ends := st.machine.clock }
  (.input number, st.onMachine fun m => { m with feeds := (number, feed) :: m.feeds })

/-- Makes one redirection; complains when it cannot be made. -/
def redirect (p : Powers) (r : Redirection) (st : State) : Bool × State :=
  let (o, st) := Expansion.single (substitute p) st r.target
  if !st.goes then (false, st)
  else
    let outcome : Except Octets (Option Target × State) := match r.direction with
      | .read => openRead o st
      | .write => openWrite false o st
      | .append => openWrite true o st
      | .both =>
        match openWrite true o st with
        | .ok (_, st) => openRead o st
        | .error m => .error m
      | .copy => copied o st
      | .here =>
        let (target, st) := hereText o st
        .ok (some target, st)
    match outcome with
    | .ok (target, st) => (true, st.onShell (State.point r.descriptor target))
    | .error message => (false, (st.complainShell message).withStatus 2)

/-- Makes redirections from the left, as far as they can be made. -/
def redirectAll (p : Powers) : List Redirection → State → Bool × State
  | [], st => (true, st)
  | r :: rest, st =>
    match redirect p r st with
    | (true, st) => redirectAll p rest st
    | (false, st) => (false, st)

/-- Lets the descriptors of a shell lead where they led before. -/
def restore (before : State) (st : State) : State :=
  st.onShell fun sh => { sh with descriptors := before.shell.descriptors }

end Process

end QueryGateway.Shell
