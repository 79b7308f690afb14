import QueryGateway.Shell.Builtin

/-!
# Running commands

Commands are run by recursion on their form. Loops are bounded by the moves that the machine has left, and script
text, calls of functions and programs by a depth, beyond which a process is taken to have run out of its stack.
-/

namespace QueryGateway.Shell

namespace Eval

/-! ## Simple commands -/

/-- Ends a shell that stops on errors when its last command failed and nobody tests that. -/
def checked (st : State) : State :=
  let failed := st.shell.status ≠ 0 ∧ !st.shell.tested
  if st.goes ∧ st.shell.stopOnError ∧ failed then { st with flow := .exit } else st

/-- Expands the values of assignments. -/
def values (p : Powers) : List (Octets × Word) → State → List (Octets × Octets) × State
  | [], st => ([], st)
  | (name, w) :: rest, st =>
    let (value, st) := Expansion.single (Process.substitute p) st w
    if st.goes then
      let (more, st) := values p rest st
      ((name, value) :: more, st)
    else ([], st)

/-- Gives variables their values. -/
def assignAll (pairs : List (Octets × Octets)) (st : State) : State :=
  pairs.foldl (fun st (name, value) => if st.goes then Builtin.assign name value st else st) st

/-- Puts a variable back to what it was. -/
def putBack (sh : Session) (saved : Octets × Option Variable) : Session :=
  let (name, old) := saved
  { sh with bindings := (old.map fun v => (name, v)).toList ++ sh.bindings.filter (·.1 ≠ name) }

/-- Runs something with assignments that only hold for it. -/
def withAssignments (pairs : List (Octets × Octets)) (act : State → State) (st : State) : State :=
  let saved := pairs.map fun (name, _) => (name, st.shell.bindings.lookup name)
  let st := assignAll pairs st
  if st.goes then (act st).onShell fun sh => saved.foldl putBack sh else st

/-- Calls a function. -/
def call (p : Powers) (body : Command) (args : List Octets) (st : State) : State :=
  let before := st.shell
  let st := p.command body (st.onShell fun sh =>
    { sh with arguments := args.drop 1, locals := [], calls := sh.calls + 1, loops := 0 })
  let st := st.onShell fun sh =>
    { sh.locals.foldl putBack sh with
      arguments := before.arguments, locals := before.locals, calls := before.calls, loops := before.loops }
  if st.flow = .leave then { st with flow := .next } else st

/-- A program started by the shell: in a process of its own, or in this one if it ends with the program. -/
def external (p : Powers) (final : Bool) (pairs : List (Octets × Octets)) (args : List Octets) (st : State) : State :=
  let body (st : State) : State :=
    let st := assignAll pairs st
    let st := st.onShell fun sh => pairs.foldl (fun sh (name, _) => State.exportName name sh) sh
    if st.goes then p.program args st else st
  if final ∧ st.shell.traps.isEmpty then body st else Process.run p body st

/-- `command`: past the functions, or only telling what a name stands for. -/
def commandBuiltin (p : Powers) (args : List Octets) (st : State) : State :=
  match args.drop 1 with
  | [] => st.withStatus 0
  | ['-', 'v'] :: names => Builtin.tell (names.take 1) st
  | ['-', 'V'] :: names => Builtin.tellType p (Tool.lit "type" :: names) st
  | rest =>
    let rest := if rest.head? = some (Tool.lit "-p") then rest.drop 1 else rest
    match Builtin.find? (rest.headD []) with
    | some own => own p rest st
    | none => external p false [] rest st

/-- Whether a name is neither one of the shell's own commands nor a function. -/
def isExternal (sh : Session) (name : Octets) : Bool :=
  !Builtin.isOwn name && (sh.functions.lookup name).isNone

/-- Runs the command that words name. -/
def dispatch (p : Powers) (final : Bool) (pairs : List (Octets × Octets)) (args : List Octets) (st : State) : State :=
  let name := args.headD []
  match Builtin.special.lookup (String.ofList name) with
  | some own =>
    let st := assignAll pairs st
    if st.goes then own p args st else st
  | none =>
    match st.shell.functions.lookup name with
    | some body => withAssignments pairs (call p body args) st
    | none =>
      match Builtin.regular.lookup (String.ofList name) with
      | some own => withAssignments pairs (own p args) st
      | none =>
        if name = Tool.lit "command" then withAssignments pairs (commandBuiltin p args) st
        else if name = Tool.lit "type" then Builtin.tellType p args st
        else external p final pairs args st

/-- Shows a command before it is run, if that is wanted. -/
def trace (pairs : List (Octets × Octets)) (args : List Octets) (st : State) : State :=
  if st.shell.traced then
    st.complainOctets (Tool.unwords (['+'] :: pairs.map (fun (name, value) => name ++ '=' :: value) ++ args))
  else st

/-- A simple command. -/
def simple (p : Powers) (final : Bool) (line : Nat) (assignments : List (Octets × Word)) (ws : List Word)
    (rs : List Redirection) (st : State) : State :=
  let st := Process.heed p (st.onShell fun sh => { sh with line := line }).tick
  if !st.goes then st
  else
    let before := st.machine.next
    let (args, st) := Expansion.words (Process.substitute p) st ws
    if !st.goes then st
    else
      let saved := st
      match Process.redirectAll p rs st with
      | (false, st) =>
        let st := Process.restore saved st
        let isSpecial := (Builtin.special.lookup (String.ofList (args.headD []))).isSome
        if st.goes ∧ isSpecial then st.exitWith 2 else checked st
      | (true, st) =>
        let (pairs, st) := values p assignments st
        if !st.goes then st
        else
          match args with
          | [] =>
            let st := assignAll pairs (trace pairs [] st)
            let st := if st.goes ∧ st.machine.next = before then st.withStatus 0 else st
            checked (Process.restore saved st)
          | name :: _ =>
            let st := trace pairs args st
            let leaves := name = Tool.lit "exec" || final && st.shell.traps.isEmpty && isExternal st.shell name
            if leaves then
              let gone := State.releaseFrom saved.shell (some st.shell) st.machine.clock
              checked (dispatch p final pairs args (st.onMachine gone))
            else checked (Process.restore saved (dispatch p final pairs args st))

/-! ## Compound commands -/

/-- Repeats a step as long as it says so. `moves` bounds how often. -/
def iterate (step : State → Bool × State) : Nat → State → State
  | 0, st => st.waitUntil st.machine.horizon
  | moves + 1, st =>
    match step st with
    | (true, st) => iterate step moves st
    | (false, st) => st

/-- What becomes of a loop after a round of its body: whether it goes on, and how. -/
def afterRound (st : State) : Bool × State :=
  match st.flow with
  | .next => (true, st)
  | .escape n => (false, { st with flow := if n ≤ 1 then .next else .escape (n - 1) })
  | .again n => if n ≤ 1 then (true, { st with flow := .next }) else (false, { st with flow := .again (n - 1) })
  | _ => (false, st)

/-- Runs something whose failure is tested. -/
def tested (act : State → State) (st : State) : State :=
  let outer := st.shell.tested
  (act (st.onShell fun sh => { sh with tested := true })).onShell fun sh => { sh with tested := outer }

/-- Runs something inside a loop. -/
def inLoop (act : State → State) (st : State) : State :=
  let outer := st.shell.loops
  (act (st.onShell fun sh => { sh with loops := sh.loops + 1 })).onShell fun sh => { sh with loops := outer }

/-- One round of a loop with a condition. -/
def round (stopOn : Bool) (condition body : State → State) (st : State) : Bool × State :=
  let last := st.shell.status
  let st := tested condition st.tick
  match st.flow with
  | .next =>
    if (st.shell.status = 0) = stopOn then (false, st.withStatus last) else afterRound (body (st.withStatus last))
  | _ => afterRound st

/-- A loop over words. -/
def each (name : Octets) (body : State → State) : List Octets → State → State
  | [], st => st
  | w :: rest, st =>
    match afterRound (body (Builtin.assign name w st.tick)) with
    | (true, st) => each name body rest st
    | (false, st) => st

/-- Whether one of the patterns of an arm matches; the patterns are expanded one by one. -/
def armMatches (p : Powers) (subject : Octets) : List Word → State → Bool × State
  | [], st => (false, st)
  | w :: rest, st =>
    let (cells, st) := Expansion.word (Process.substitute p) st w
    if !st.goes then (false, st)
    else if Pattern.accepts (Cell.pattern cells) subject then (true, st)
    else armMatches p subject rest st

/-- A body with redirections around it. -/
def redirected (p : Powers) (rs : List Redirection) (body : State → State) (st : State) : State :=
  let saved := st
  match Process.redirectAll p rs st with
  | (false, st) => checked (Process.restore saved st)
  | (true, st) => Process.restore saved (body st)

/-- The opposite of a status. -/
def opposite (st : State) : State :=
  if st.goes then st.withStatus (if st.shell.status = 0 then 1 else 0) else st

mutual

/-- Runs a command. With the flag the process ends with it. -/
def run (p : Powers) (final : Bool) : Command → State → State
  | .nothing, st => st.withStatus 0
  | .simple line assignments ws rs, st => simple p final line assignments ws rs st
  | .pipeline stages, st => checked (Process.pipeline p (runStages p stages) none st)
  | .negated c, st => opposite (tested (run p false c) st)
  | .both a b, st =>
    let st := tested (run p false a) st
    if st.goes ∧ st.shell.status = 0 then run p final b st else st
  | .either a b, st =>
    let st := tested (run p false a) st
    if st.goes ∧ st.shell.status ≠ 0 then run p final b st else st
  | .sequence a b, st =>
    let st := run p false a st
    if st.goes then run p final b st else st
  | .background c, st => Process.background p (run p true c) st
  | .subshell c, st =>
    if final ∧ st.shell.traps.isEmpty then run p true c st else checked (Process.run p (run p true c) st)
  | .redirected c rs, st => redirected p rs (run p false c) st
  | .branch condition yes no, st =>
    let st := tested (run p false condition) st
    if !st.goes then st
    else if st.shell.status = 0 then run p final yes st
    else run p final no st
  | .loop stopOn condition body, st =>
    inLoop (fun st => iterate (round stopOn (run p false condition) (run p false body)) (st.machine.moves + 1) st)
      (st.withStatus 0)
  | .each name ws body, st =>
    match ws with
    | none => inLoop (each name (run p false body) st.shell.arguments) (st.withStatus 0)
    | some ws =>
      let (items, st) := Expansion.words (Process.substitute p) st ws
      if st.goes then inLoop (each name (run p false body) items) (st.withStatus 0) else st
  | .choice subject arms, st =>
    let (subject, st) := Expansion.single (Process.substitute p) st subject
    if st.goes then runArms p final subject arms (st.withStatus 0) else st
  | .function name body, st =>
    (st.withStatus 0).onShell fun sh => { sh with functions := (name, body) :: sh.functions.filter (·.1 ≠ name) }

/-- The stages of a pipeline, each as what its process does. -/
def runStages (p : Powers) : List Command → List (State → State)
  | [] => []
  | c :: rest => run p true c :: runStages p rest

/-- Runs the first arm that matches. -/
def runArms (p : Powers) (final : Bool) (subject : Octets) : List (List Word × Command) → State → State
  | [], st => st
  | (patterns, body) :: rest, st =>
    match armMatches p subject patterns st with
    | (true, st) => run p final body st
    | (false, st) => if st.goes then runArms p final subject rest st else st

end

/-! ## Scripts -/

/-- Runs the lines of a script, each read when those before it have been run. With the flag the process ends with the
last one. `fuel` bounds their number. -/
def lines (p : Powers) (final : Bool) (last : Nat) (bodies : List Word) : Nat → Tokens → State → State
  | 0, _, st => st
  | fuel + 1, ts, st =>
    match Grammar.line last bodies ts with
    | .error m =>
      let st := st.onShell fun sh => { sh with line := m.line }
      let words := Tool.lit "Syntax error: " ++ Octets.ofString m.message
      (st.complainShell (if st.shell.evaluating then Tool.lit "eval: " ++ words else words)).exitWith 2
    | .ok (none, _) => st
    | .ok (some c, rest) =>
      let st := run p (final && (Grammar.skipLines rest).isEmpty) c st
      match st.flow with
      | .next => lines p final last bodies fuel rest st
      | .escape _ => lines p final last bodies fuel rest { st with flow := .next }
      | .again _ => lines p final last bodies fuel rest { st with flow := .next }
      | _ => st

/-- Runs script text. -/
def script (p : Powers) (final : Bool) (source : Octets) (st : State) : State :=
  let (ts, bodies) := tokens 1 source
  lines p final (1 + source.count '\n') bodies (ts.length + 1) ts st

/-- A process that has run out of its stack. -/
def overrun (st : State) : State := { st with flow := .killed 11 }

/-- A shell in which functions call each other without end. -/
def tooDeep (st : State) : State :=
  (st.complainShell (Tool.lit "Maximum function recursion depth (1000) reached")).exitWith 2

/-- Powers that may be nested so many times. -/
def powers : Nat → Powers
  | 0 => { script := fun _ _ => overrun, command := fun _ => tooDeep, program := fun _ => overrun }
  | depth + 1 =>
    { script := fun final source st => script (powers depth) final source st,
      command := fun c st => run (powers depth) false c st,
      program := fun args st => Launch.become (powers depth) args st }

/-- How deep script text, functions and programs may nest. -/
def standardDepth : Nat := 150

end Eval

end QueryGateway.Shell
