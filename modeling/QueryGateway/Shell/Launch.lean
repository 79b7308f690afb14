import QueryGateway.Shell.Process

/-!
# Launching programs

A program is a file that may be executed. Those of the host start with the mark of a binary and their name; a text may
name its interpreter on its first line. A name without a slash is looked for along the search path.
-/

namespace QueryGateway.Shell

/-- What an executable file is. -/
inductive Image where
  /-- A program of the host. -/
  | binary (name : String)
  /-- A text that names its interpreter, perhaps with one argument. -/
  | interpreted (interpreter : Octets) (argument : Option Octets)
  | text
deriving Repr, Inhabited

namespace Image

/-- What the programs of the host start with. -/
def mark : Octets := ['\x7f', 'E', 'L', 'F']

/-- The image that a file holds. -/
def ofContent (content : Octets) : Image :=
  if mark.isPrefixOf content then .binary (String.ofList (content.drop mark.length))
  else
    match content with
    | '#' :: '!' :: rest =>
      let line := ((rest.takeWhile (· ≠ '\n')).dropWhile (· = ' ')).reverse.dropWhile fun c => c = ' ' || c = '\t'
      let line := line.reverse
      let interpreter := line.takeWhile (· ≠ ' ')
      let argument := (line.drop interpreter.length).dropWhile (· = ' ')
      .interpreted interpreter (if argument.isEmpty then none else some argument)
    | _ => .text

/-- The content of a file that may be executed. -/
def executable (t : Tree) (cwd : Place) (path : Octets) : Except FileFault Octets :=
  match t.find cwd (Condition.path path) with
  | .ok (_, .file content mode) =>
    if mode &&& 0o111 = 0 then .error (.os .denied) else .ok (Octets.ofBytes content)
  | .ok _ => .error (.os .denied)
  | .error f => .error f

/-- The first of several paths that may be executed. A file that may not be is only an error when no other is found. -/
def firstOf (t : Tree) (cwd : Place) : FileFault → List Octets → Except FileFault (Octets × Octets)
  | fault, [] => .error fault
  | fault, path :: rest =>
    match executable t cwd path with
    | .ok content => .ok (path, content)
    | .error f => firstOf t cwd (if f = .os .denied then f else fault) rest

/-- The file that a program's name stands for: its path and its content. -/
def search (t : Tree) (cwd : Place) (directories : List Octets) (name : Octets) : Except FileFault (Octets × Octets) :=
  if name.isEmpty then .error (.os .notFound)
  else if name.contains '/' then (executable t cwd name).map fun content => (name, content)
  else
    let paths := directories.map fun d => if d.isEmpty then name else d ++ '/' :: name
    firstOf t cwd (.os .notFound) paths

end Image

namespace Launch

/-- Where a shell looks for programs when nothing else is said. -/
def standardPath : Octets := "/usr/local/sbin:/usr/local/bin:/usr/sbin:/usr/bin:/sbin:/bin".toList

/-- Where a shell looks for programs: nowhere when its search path is unset. -/
def directories (sh : Session) : List Octets :=
  ((State.valueOf sh "PATH".toList).map (Octets.splitOn ':')).getD []

/-- The file that a name stands for in a shell. -/
def search (st : State) (name : Octets) : Except FileFault (Octets × Octets) :=
  Image.search st.machine.tree st.shell.cwd (directories st.shell) name

/-- The shell that a process starts with: of the old one it keeps what a new program inherits. -/
def freshShell (name : Octets) (arguments : List Octets) (sh : Session) : Session :=
  let inherited := sh.bindings.filter fun v => v.2.exported && v.2.value.isSome
  let standard : List (Octets × Variable) :=
    [("PATH".toList, { value := some standardPath }), ("OPTIND".toList, { value := some ['1'] }),
     ("PPID".toList, { value := some (Octets.ofNat (sh.process - 1)) }),
     ("PWD".toList, { value := some (Tool.placePath sh.cwd), exported := true })]
  let bindings := inherited ++ standard.filter fun v => (inherited.lookup v.1).isNone
  { name := name, arguments := arguments, bindings := bindings, process := sh.process, leader := sh.process,
    traps := sh.traps.filter fun t => t.2 = [], descriptors := sh.descriptors, cwd := sh.cwd }

/-- Sets the options of a shell that are letters of one argument. -/
def setOptions (on : Bool) (letters : Octets) (sh : Session) : Session :=
  letters.foldl (fun sh c => match c with
    | 'e' => { sh with stopOnError := on }
    | 'u' => { sh with stopOnUnset := on }
    | 'f' => { sh with noGlob := on }
    | 'x' => { sh with traced := on }
    | _ => sh) sh

/-- The options in front of the operands of a shell: letters to set, whether text is given, and the operands. -/
def shellOptions : List Octets → Octets → Octets × List Octets
  | ('-' :: '-' :: []) :: rest, letters => (letters, rest)
  | ('-' :: c :: more) :: rest, letters => shellOptions rest (letters ++ c :: more)
  | rest, letters => (letters, rest)

/-- A shell as a program. -/
def shell (p : Powers) : Tool := fun args st =>
  let own := args.headD []
  let (letters, operands) := shellOptions (args.drop 1) []
  let begun (name : Octets) (arguments : List Octets) : State :=
    st.onShell fun sh => setOptions true letters (freshShell name arguments sh)
  if letters.contains 'c' then
    match operands with
    | [] => (begun own []).complainOctets (own ++ ": 0: -c requires an argument".toList) |>.exitWith 2
    | text :: rest => p.script false text (begun (rest.headD own) (rest.drop 1))
  else if operands.isEmpty ∨ letters.contains 's' then
    match (begun own operands).readAll 0 with
    | (none, st) => st
    | (some feed, st) =>
      let st := st.waitUntil feed.ends
      if st.goes then p.script false (feed.pieces.flatMap Prod.snd) st else st
  else
    let file := operands.headD []
    let st := begun file (operands.drop 1)
    match st.machine.tree.read st.shell.cwd (Condition.path file) with
    | .ok content => p.script false (Octets.ofBytes content) st
    | .error f =>
      let words := own ++ ": 0: cannot open ".toList ++ file ++ ": ".toList ++ Process.openFault false f
      (st.complainOctets words).exitWith 2

/-- Where a program that starts another looks for it when it sees no search path. -/
def sparePath : Octets := "/bin:/usr/bin".toList

/-- Goes on as another program, or complains that it cannot be run. -/
def handOver (p : Powers) (complaint : Octets → Octets) (args : List Octets) (st : State) : State :=
  let places := Octets.splitOn ':' ((State.valueOf st.shell "PATH".toList).getD sparePath)
  match Image.search st.machine.tree st.shell.cwd places (args.headD []) with
  | .ok (path, _) =>
    if (State.valueOf st.shell "PATH".toList).isSome then p.program args st else p.program (path :: args.drop 1) st
  | .error f =>
    let status := if f = .os .denied then 126 else 127
    (st.complainOctets (complaint (args.headD []) ++ Tool.lit ": " ++ Tool.faultText f)).exitWith status

/-- The options and assignments in front of the command of `env`, applied, and that command. -/
def applyEnvironment : List Octets → Session → Session × List Octets
  | ['-', 'i'] :: rest, sh => applyEnvironment rest { sh with bindings := [] }
  | ['-'] :: rest, sh => applyEnvironment rest { sh with bindings := [] }
  | ['-', 'u'] :: name :: rest, sh => applyEnvironment rest (State.unassign name sh)
  | word :: rest, sh =>
    if word.contains '=' then
      let name := word.takeWhile (· ≠ '=')
      let value := word.drop (name.length + 1)
      applyEnvironment rest (State.exportName name (State.assign name value sh))
    else (sh, word :: rest)
  | [], sh => (sh, [])

/-- `env`. -/
def env (p : Powers) : Tool := fun args st =>
  let (sh, command) := applyEnvironment (args.drop 1) st.shell
  let st := { st with shell := sh }
  if command.isEmpty then Tool.printEnvironment (Tool.lit "env") (State.environment st.shell) (st.withStatus 0)
  else handOver p (fun name => args.headD [] ++ Tool.lit ": " ++ Tool.quote name) command st

/-- `timeout`: the command ends when its time is up. -/
def timeout (p : Powers) : Tool := fun args st =>
  let hint := Tool.lit "Try 'timeout --help' for more information."
  match (args.drop 1).dropWhile fun a => a.head? = some '-' with
  | duration :: command@(_ :: _) =>
    let child := handOver p (fun name => Tool.lit "timeout: failed to run command " ++ Tool.quote name) command
    match Tool.duration? duration with
    | none =>
      let words := Tool.lit "invalid time interval " ++ Tool.quote duration ++ '\n' :: hint
      Tool.fail (Tool.lit "timeout") words 125 st
    | some span =>
      let horizon := st.machine.horizon
      let limit := st.machine.clock + span
      if span = 0 ∨ horizon ≤ limit then
        Process.run p child st
      else
        let st := st.onMachine fun m => { m with horizon := limit }
        let child := Process.fork p child st
        let late := child.flow = .late
        let child := child.onMachine fun m => { m with horizon := horizon }
        if late then ({ st with machine := child.machine }).withStatus 124
        else Process.rejoin p st child
  | _ => (st.complainOctets hint).withStatus 125

/-- `nice`: the command as it is. -/
def nice (p : Powers) : Tool := fun args st =>
  let rest := args.drop 1
  let command := if rest.head? = some (Tool.lit "-n") then rest.drop 2 else rest
  if command.isEmpty then Tool.emit (Tool.lit "nice") (Tool.lit "0\n") (st.withStatus 0)
  else handOver p (fun name => Tool.lit "nice: " ++ Tool.quote name) command st

/-- The words of a text, between blanks and line ends. -/
def blankWords (o : Octets) : List Octets :=
  ((Octets.splitOn '\n' o).flatMap (Octets.splitOn ' ')).filter fun w => !w.isEmpty

/-- A list in pieces of a length. `fuel` bounds their number. -/
def chunks (n : Nat) : Nat → List Octets → List (List Octets)
  | 0, rest => if rest.isEmpty then [] else [rest]
  | fuel + 1, rest => if rest.length ≤ n then [rest] else rest.take n :: chunks n fuel (rest.drop n)

/-- `xargs`: a command with the words that are read as further arguments. -/
def xargs (p : Powers) : Tool := fun args st =>
  let (most, command) : Option Nat × List Octets := match args.drop 1 with
    | ['-', 'n'] :: n :: rest => (Octets.nat? n, rest)
    | ('-' :: 'n' :: n) :: rest => (Octets.nat? n, rest)
    | rest => (none, rest)
  let command := if command.isEmpty then [Tool.lit "echo"] else command
  let (text, st) := Tool.gather (Tool.lit "xargs") [] (st.withStatus 0)
  let words := blankWords text
  let groups := match most with
    | some (n + 1) => chunks (n + 1) words.length words
    | _ => [words]
  groups.foldl (fun st group =>
    if st.goes then
      let before := st.shell.status
      let st := Process.run p (handOver p (fun name => Tool.lit "xargs: " ++ name) (command ++ group)) st
      if st.shell.status = 126 ∨ st.shell.status = 127 then st
      else st.withStatus (if st.shell.status = 0 then before else 123)
    else st) st

/-- The signal and the processes that the arguments of `kill` name; without a signal it is the one that asks to end. -/
def killOperands : List Octets → Option Octets × List Octets
  | ['-', 's'] :: name :: rest => (some name, rest)
  | ['-', '-'] :: rest => (none, rest)
  | ('-' :: name) :: rest => (some name, if rest.head? = some (Tool.lit "--") then rest.drop 1 else rest)
  | rest => (none, rest)

/-- Sends a signal to processes; complains about those that are not there. -/
def killAll (p : Powers) (complain : Octets → Octets → State → State) (n : Nat) (processes : List Octets)
    (st : State) : State :=
  processes.foldl (fun st o =>
    if !st.goes then st
    else
      match Octets.nat? o with
      | none => (complain (Tool.lit "Illegal number: " ++ o) o st).withStatus 2
      | some process =>
        match Process.send p n process st with
        | (true, st) => st
        | (false, st) => complain (Tool.lit "No such process") o st) (st.withStatus 0)

/-- `kill` as a program of its own. -/
def kill (p : Powers) : Tool := fun args st =>
  let (name, processes) := killOperands (args.drop 1)
  match (name.map Tool.signalNumber?).getD (some 15) with
  | none => Tool.fail (Tool.lit "kill") (Tool.lit "unknown signal " ++ name.getD []) 1 st
  | some n =>
    let complain (words o : Octets) : State → State :=
      Tool.fail (Tool.lit "kill") (['('] ++ o ++ Tool.lit "): " ++ words) 1
    killAll p complain n processes st

/-- `nohup`. -/
def nohup (p : Powers) : Tool := fun args st =>
  if args.length ≤ 1 then
    Tool.fail (Tool.lit "nohup") (Tool.lit "missing operand\nTry 'nohup --help' for more information.") 125 st
  else handOver p (fun n => Tool.lit "nohup: failed to run command " ++ Tool.quote n) (args.drop 1) st

/-- `setsid`. -/
def setsid (p : Powers) : Tool := fun args st =>
  if args.length ≤ 1 then
    Tool.fail (Tool.lit "setsid") (Tool.lit "no command specified\nTry 'setsid --help' for more information.") 1 st
  else handOver p (fun n => Tool.lit "setsid: failed to execute " ++ n) (args.drop 1) st

/-- The programs that start others, by their names. -/
def starters : List (String × (Powers → Tool)) :=
  [("sh", shell), ("dash", shell), ("env", env), ("timeout", timeout), ("nice", nice), ("xargs", xargs), ("kill", kill),
   ("nohup", nohup), ("setsid", setsid)]

/-- The names of all programs of the host. -/
def programNames : List String :=
  Tool.byName.map Prod.fst ++ starters.map Prod.fst

/-- What a program of the host does. -/
def binary (p : Powers) (name : String) : Tool :=
  match starters.lookup name with
  | some starter => starter p
  | none => (Tool.byName.lookup name).getD fun _ st => st.withStatus 0

/-- Runs an image in the process at hand. -/
def start (p : Powers) (path content : Octets) (args : List Octets) (st : State) : State :=
  match Image.ofContent content with
  | .binary name => binary p name args st
  | .interpreted interpreter argument => p.program (interpreter :: argument.toList ++ path :: args.drop 1) st
  | .text => p.script false content (st.onShell (freshShell path (args.drop 1)))

/-- Why an image cannot be run by the operating system, if it cannot: its interpreter may be missing. -/
def interpreterFault (tree : Tree) (cwd : Place) (content : Octets) : Option FileFault :=
  match Image.ofContent content with
  | .interpreted interpreter _ =>
    match Image.executable tree cwd interpreter with
    | .ok _ => none
    | .error f => some f
  | _ => none

/-- The file that a process becomes, if it can. -/
def runnable (st : State) (name : Octets) : Except FileFault (Octets × Octets) :=
  match search st name with
  | .error f => .error f
  | .ok (path, content) =>
    match interpreterFault st.machine.tree st.shell.cwd content with
    | some f => .error f
    | none => .ok (path, content)

/-- The process becomes a program, and ends with it. -/
def become (p : Powers) (args : List Octets) (st : State) : State :=
  let name := args.headD []
  match runnable st name with
  | .ok (path, content) =>
    let st := start p path content args st
    if st.goes then { st with flow := .exit } else st
  | .error f =>
    let denied := f = .os .denied
    let words := if denied then Tool.lit "Permission denied" else Tool.lit "not found"
    (st.complainShell (name ++ Tool.lit ": " ++ words)).exitWith (if denied then 126 else 127)

end Launch

end QueryGateway.Shell
