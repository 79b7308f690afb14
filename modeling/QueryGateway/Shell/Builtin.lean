import QueryGateway.Shell.Grammar
import QueryGateway.Shell.Launch

/-!
# The shell's own commands

Commands that a shell carries out itself, because they change it or because they are so common. The special ones among
them keep the assignments in front of them, and a mistake in their use ends the shell.
-/

namespace QueryGateway.Shell

/-- A command of the shell itself: what it does with its arguments, its name first. -/
abbrev Builtin := Powers → Tool

namespace Builtin

open Tool (lit)

/-- Prints to the output; a shell that cannot print says so. -/
def say (name data : Octets) (st : State) : State :=
  match st.write 1 data with
  | (none, st) => st
  | (some _, st) => st.complainAs name (name ++ lit ": I/O error") 1

/-- Complains and ends the shell, as the special commands do. -/
def abandon (name message : Octets) (st : State) : State :=
  (st.complainAs name message 2).exitWith 2

/-- A number that is no number. -/
def illegal (o : Octets) : Octets := lit "Illegal number: " ++ o

/-- A count of levels, one unless it is given. -/
def levels (args : List Octets) : Option Nat :=
  match args.drop 1 with
  | [] => some 1
  | o :: _ => (Octets.nat? o).filter (0 < ·)

/-- `break` and `continue`. -/
def leaveLoop (flow : Nat → Flow) : Builtin := fun _ args st =>
  match levels args with
  | some n =>
    let st := st.withStatus 0
    if st.shell.loops = 0 then st else { st with flow := flow (min n st.shell.loops) }
  | none => abandon (args.headD []) (illegal ((args.drop 1).headD [])) st

/-- A status given as an argument, or the last one. -/
def givenStatus (args : List Octets) (st : State) : Option Nat :=
  match args.drop 1 with
  | [] => some st.shell.status
  | o :: _ => (Octets.nat? o).filter (· < UInt32.size / 2)

/-- `exit`. -/
def exit : Builtin := fun _ args st =>
  match givenStatus args st with
  | some n => st.exitWith n
  | none => abandon (args.headD []) (illegal ((args.drop 1).headD [])) st

/-- `return`. -/
def returnFrom : Builtin := fun _ args st =>
  match givenStatus args st with
  | some n => { st.withStatus (n % 256) with flow := .leave }
  | none => abandon (args.headD []) (illegal ((args.drop 1).headD [])) st

/-- `eval`. -/
def eval : Builtin := fun p args st =>
  let outer := st.shell.evaluating
  let st := st.withStatus (if args.length ≤ 1 then 0 else st.shell.status)
  let st := st.onShell fun sh => { sh with evaluating := true }
  (p.script false (Tool.unwords (args.drop 1)) st).onShell fun sh => { sh with evaluating := outer }

/-- `.`: the text of a file is run in the shell itself. -/
def source : Builtin := fun p args st =>
  match args.drop 1 with
  | [] => st.withStatus 0
  | o :: _ =>
    let paths := if o.contains '/' then [o]
      else (Launch.directories st.shell).map fun d => if d.isEmpty then o else d ++ '/' :: o
    let contents := paths.filterMap fun path => (st.machine.tree.read st.shell.cwd (Tool.path path)).toOption
    match contents with
    | content :: _ =>
      let line := st.shell.line
      let st := p.script false (Octets.ofBytes content) (st.withStatus 0)
      let st := st.onShell fun sh => { sh with line := line }
      if st.flow = .leave then { st with flow := .next } else st
    | [] =>
      let words := if o.contains '/' then lit "cannot open " ++ o ++ lit ": No such file" else o ++ lit ": not found"
      abandon (lit ".") words st

/-- `exec`: the shell becomes a program. -/
def exec : Builtin := fun p args st =>
  match args.drop 1 with
  | [] => st.withStatus 0
  | command@(name :: _) =>
    match Launch.search st name with
    | .ok _ => p.program command st
    | .error f =>
      let denied := f = .os .denied
      let words := name ++ if denied then lit ": Permission denied" else lit ": not found"
      (st.complainAs (lit "exec") words 2).exitWith (if denied then 126 else 127)

/-- Whether a variable may not be changed. -/
def isFixed (name : Octets) (sh : Session) : Bool :=
  (sh.bindings.lookup name).any (·.fixed)

/-- Gives a variable a value, or ends the shell when it may not be changed. -/
def assign (name value : Octets) (st : State) : State :=
  if isFixed name st.shell then (st.complainShell (name ++ lit ": is read only")).exitWith 2
  else st.onShell (State.assign name value)

/-- Gives each of several names what it is given and marks it. -/
def declare (mark : Octets → Session → Session) : Builtin := fun _ args st =>
  (args.drop 1).foldl (fun st word =>
    let name := word.takeWhile (· ≠ '=')
    if !st.goes ∨ word.head? = some '-' then st
    else if !isName name then abandon (args.headD []) (word ++ lit ": bad variable name") st
    else
      let st := if word.contains '=' then assign name (word.drop (name.length + 1)) st else st
      st.onShell (mark name)) (st.withStatus 0)

/-- Fixes a variable. -/
def fix (name : Octets) (sh : Session) : Session :=
  let old := sh.bindings.lookup name
  let entry : Variable := { value := old.bind (·.value), exported := old.any (·.exported), fixed := true }
  { sh with bindings := (name, entry) :: sh.bindings.filter (·.1 ≠ name) }

/-- `set`. -/
def setShell : Builtin := fun _ args st =>
  let letters := ['a', 'b', 'C', 'e', 'E', 'f', 'h', 'I', 'i', 'm', 'n', 'p', 's', 'u', 'v', 'V', 'x']
  let rec go : List Octets → Session → Option Octets × Session
    | ['-', '-'] :: rest, sh => (none, { sh with arguments := rest })
    | ['-', 'o'] :: name :: rest, sh =>
      match String.ofList name with
      | "errexit" => go rest (Launch.setOptions true ['e'] sh)
      | "nounset" => go rest (Launch.setOptions true ['u'] sh)
      | "noglob" => go rest (Launch.setOptions true ['f'] sh)
      | "xtrace" => go rest (Launch.setOptions true ['x'] sh)
      | _ => (some (lit "Illegal option -o " ++ name), sh)
    | ('-' :: c :: more) :: rest, sh =>
      match (c :: more).find? fun d => !letters.contains d with
      | some d => (some (lit "Illegal option -" ++ [d]), sh)
      | none => go rest (Launch.setOptions true (c :: more) sh)
    | ('+' :: c :: more) :: rest, sh => go rest (Launch.setOptions false (c :: more) sh)
    | [], sh => (none, sh)
    | rest, sh => (none, { sh with arguments := rest })
  match go (args.drop 1) st.shell with
  | (none, sh) => { st with shell := { sh with status := 0 } }
  | (some message, _) => abandon (lit "set") message st

/-- `shift`. -/
def shift : Builtin := fun _ args st =>
  match (match args.drop 1 with
    | [] => some 1
    | o :: _ => Octets.nat? o) with
  | none => abandon (lit "shift") (illegal ((args.drop 1).headD [])) st
  | some n =>
    if st.shell.arguments.length < n then abandon (lit "shift") (lit "can't shift that many") st
    else (st.withStatus 0).onShell fun sh => { sh with arguments := sh.arguments.drop n }

/-- The number of a signal that the shell knows by its short name only. -/
def signalNumber? (o : Octets) : Option Nat :=
  match Octets.nat? o with
  | some n => if n < 65 then some n else none
  | none =>
    let name := "SIG" ++ String.ofList (o.map Char.toUpper)
    let known := WaitStatus.signalNames.filter fun s => s.1 ≠ 16
    ((known ++ [(0, "SIGEXIT")]).find? fun (p : Nat × String) => p.2 = name).map Prod.fst

/-- The short name of a signal. -/
def signalName (n : Nat) : Octets :=
  if n = 0 then lit "EXIT"
  else ((WaitStatus.signalNames.lookup n).map fun name => name.toList.drop 3).getD (Octets.ofNat n)

/-- The traps that are set, as commands that set them. -/
def trapList (sh : Session) : Octets :=
  (sh.traps.mergeSort fun a b => a.1 ≤ b.1).flatMap fun (n, action) =>
    lit "trap -- '" ++ action ++ lit "' " ++ signalName n ++ ['\n']

/-- Sets or takes away the traps of several signals. -/
def setTraps (action : Option Octets) (signals : List Octets) (st : State) : State :=
  signals.foldl (fun st o =>
    match signalNumber? o with
    | none => (st.complainOctets (lit "trap: " ++ o ++ lit ": bad trap")).withStatus 1
    | some n =>
      let set := (action.map fun a => (n, a)).toList
      st.onShell fun sh => { sh with traps := set ++ sh.traps.filter fun t => t.1 ≠ n })
    (st.withStatus 0)

/-- `trap`. -/
def trap : Builtin := fun _ args st =>
  match args.drop 1 with
  | ['-', '-'] :: action :: signals => setTraps (some action) signals st
  | ['-'] :: signals => setTraps none signals st
  | [only] => setTraps none [only] st
  | action :: signals =>
    if (Octets.nat? action).isSome then setTraps none (action :: signals) st else setTraps (some action) signals st
  | [] => say (lit "trap") (trapList st.shell) (st.withStatus 0)

/-- `unset`. -/
def unset : Builtin := fun _ args st =>
  let functions := args.contains (lit "-f")
  let names := (args.drop 1).filter fun o => o.head? ≠ some '-'
  names.foldl (fun st name =>
    if functions then st.onShell fun sh => { sh with functions := sh.functions.filter (·.1 ≠ name) }
    else if !isName name then abandon (lit "unset") (name ++ lit ": bad variable name") st
    else if isFixed name st.shell then abandon (lit "unset") (name ++ lit ": is read only") st
    else st.onShell (State.unassign name)) (st.withStatus 0)

/-- `times`, for a process that takes none. -/
def times : Builtin := fun _ _ st =>
  say (lit "times") (lit "0m0.000000s 0m0.000000s\n0m0.000000s 0m0.000000s\n") st

/-- The special commands. -/
def special : List (String × Builtin) :=
  [(":", fun _ _ st => st.withStatus 0), ("break", leaveLoop .escape), ("continue", leaveLoop .again), (".", source),
   ("eval", eval), ("exec", exec), ("exit", exit), ("export", declare State.exportName), ("readonly", declare fix),
   ("return", returnFrom), ("set", setShell), ("shift", shift), ("times", times), ("trap", trap), ("unset", unset)]

/-! ## Regular commands -/

/-- `cd`. -/
def cd : Builtin := fun _ args st =>
  let home := (State.valueOf st.shell (lit "HOME")).getD []
  let old := (State.valueOf st.shell (lit "OLDPWD")).getD []
  let operands := (args.drop 1).filter fun o => o ≠ lit "-P" && o ≠ lit "-L" && o ≠ lit "--"
  let given := operands.headD home
  let back := given = ['-']
  let target := if back then old else given
  match st.machine.tree.find st.shell.cwd (Tool.path target) with
  | .ok (place, .directory) =>
    let before := Tool.placePath st.shell.cwd
    let here := Tool.placePath place
    let st := (st.withStatus 0).onShell fun sh =>
      State.assign (lit "PWD") here (State.assign (lit "OLDPWD") before { sh with cwd := place })
    if back then say (lit "cd") (here ++ ['\n']) st else st
  | _ => if target.isEmpty then st.withStatus 0 else st.complainAs (lit "cd") (lit "can't cd to " ++ target) 2

/-- `echo`: escapes always count, and only the option to leave out the newline is known. -/
def echo : Builtin := fun _ args st =>
  let words := args.drop 1
  let bare := words.head? = some (lit "-n")
  let (text, whole) := Format.echoed (Tool.unwords (if bare then words.drop 1 else words))
  say (lit "echo") (text ++ if bare || !whole then [] else ['\n']) (st.withStatus 0)

/-- `printf`. -/
def printf : Builtin := fun _ args st =>
  match (if (args.drop 1).head? = some (lit "--") then args.drop 2 else args.drop 1) with
  | [] => st.complainAs (lit "printf") (lit "usage: printf format [arg ...]") 2
  | format :: rest =>
    let made := Format.run format rest
    let st := made.complaints.foldl (fun st (a, words) =>
      st.complainAs (lit "printf") ((if a.isEmpty then [] else a ++ lit ": ") ++ lit words) 1) (st.withStatus 0)
    say (lit "printf") made.out (if made.broken then st.withStatus 2 else st)

/-- `test` and `[`. -/
def test : Builtin := fun _ args st =>
  let name := args.headD []
  let bracketed := name = ['[']
  let operands := args.drop 1
  if bracketed ∧ operands.getLast? ≠ some [']'] then st.complainAs name (lit "missing ]") 2
  else
    let operands := if bracketed then operands.dropLast else operands
    match Condition.holds st (operands.length + 2) operands with
    | .ok b => st.withStatus (if b then 0 else 1)
    | .error message => st.complainAs name message 2

/-- The names of signals, or of those with the given numbers, one a line. -/
def signalList (numbers : List Octets) : Octets :=
  let names := WaitStatus.signalNames.map fun (n, name) => (n, lit name |>.drop 3)
  let wanted := numbers.filterMap Octets.nat?
  let isWanted (n : Nat) : Bool := wanted.contains n || wanted.contains (n + 128)
  let shown := if numbers.isEmpty then names else names.filter fun (n, _) => isWanted n
  shown.flatMap fun (_, name) => name ++ ['\n']

/-- `kill`. -/
def kill : Builtin := fun p args st =>
  let (name, processes) := Launch.killOperands (args.drop 1)
  if processes.isEmpty ∧ name ≠ some ['l'] then
    st.complainAs (lit "kill")
      (lit "Usage: kill [-s sigspec | -signum | -sigspec] [pid | job]... or\nkill -l [exitstatus]") 2
  else if name = some ['l'] then say (lit "kill") (signalList processes) (st.withStatus 0)
  else
    match (name.map signalNumber?).getD (some 15) with
    | none => st.complainAs (lit "kill") (lit "Illegal option -" ++ (name.getD []).take 1) 2
    | some n =>
      let missing := Tool.lit "No such process"
      Launch.killAll p (fun words _ st =>
        st.complainAs (lit "kill") (if words = missing then words ++ ['\n'] else words) 1) n processes st

/-- `wait`. -/
def wait : Builtin := fun _ args st =>
  match args.drop 1 with
  | [] => Process.waitAll st
  | processes =>
    processes.foldl (fun st o =>
      if !st.goes then st
      else
        match Octets.nat? o with
        | some n => Process.waitFor n st
        | none => st.complainAs (lit "wait") (illegal o) 2) st

/-- Takes the backslashes out of a line that is read: what they stand before is kept as it is. -/
def unescaped : Octets → List Marked
  | '\\' :: c :: rest => (c, true) :: unescaped rest
  | c :: rest => (c, false) :: unescaped rest
  | [] => []

/-- Whether a line ends with a backslash that takes its newline away. -/
def continues (line : Octets) : Bool :=
  (line.reverse.takeWhile (· = '\\')).length % 2 = 1

/-- Reads a line and those that continue it. `fuel` bounds their number. -/
def readLines (raw : Bool) : Nat → Octets → State → Octets × Bool × State
  | 0, acc, st => (acc, false, st)
  | fuel + 1, acc, st =>
    let (line, complete, st) := st.readLine
    if !raw ∧ complete ∧ st.goes ∧ continues line then readLines raw fuel (acc ++ line.dropLast) st
    else (acc ++ line, complete, st)

/-- Splits what was read among names: each takes one field, the last what is left. -/
def shareOut (ifs : Octets) : List Octets → List Marked → List (Octets × Octets)
  | [], _ => []
  | name :: names, line =>
    let separates (m : Marked) : Bool := ifs.contains m.1 && !m.2
    let blank (m : Marked) : Bool := separates m && [' ', '\t', '\n'].contains m.1
    let line := line.dropWhile blank
    if names.isEmpty then [(name, ((line.reverse.dropWhile blank).reverse).map Prod.fst)]
    else
      let field := line.takeWhile fun m => !separates m
      let rest := (line.drop field.length).dropWhile blank
      let rest := match rest with
        | m :: after => if separates m then after else rest
        | [] => []
      (name, field.map Prod.fst) :: shareOut ifs names rest

/-- `read`. -/
def read : Builtin := fun _ args st =>
  let raw := (args.drop 1).any fun o => o = lit "-r"
  let names := (args.drop 1).filter fun o => o ≠ lit "-r"
  if names.isEmpty then st.complainAs (lit "read") (lit "arg count") 2
  else if !names.all isName then
    st.complainAs (lit "read") ((names.find? fun o => !isName o).getD [] ++ lit ": bad variable name") 2
  else
    let (line, complete, st) := readLines raw 10000 [] (st.withStatus 0)
    let marked := if raw then line.map fun c => (c, false) else unescaped line
    let shares := shareOut (Expansion.separators st.shell) names marked
    let st := shares.foldl (fun st (name, value) => assign name value st) st
    if st.goes then st.withStatus (if complete then 0 else 1) else st

/-- `local`: variables of the running function. -/
def declareLocal : Builtin := fun _ args st =>
  if st.shell.calls = 0 then abandon (lit "local") (lit "not in a function") st
  else (args.drop 1).foldl (fun st word =>
    let name := word.takeWhile (· ≠ '=')
    let st := st.onShell fun sh => { sh with locals := (name, sh.bindings.lookup name) :: sh.locals }
    if word.contains '=' then assign name (word.drop (name.length + 1)) st else st) (st.withStatus 0)

/-- `umask`, which only tells. -/
def umask : Builtin := fun _ args st =>
  if args.length ≤ 1 then say (lit "umask") (lit "0022\n") (st.withStatus 0) else st.withStatus 0

/-- `pwd`. -/
def pwd : Builtin := fun _ _ st =>
  say (lit "pwd") (Tool.placePath st.shell.cwd ++ ['\n']) (st.withStatus 0)

/-- The regular commands but those that look up others. -/
def regular : List (String × Builtin) :=
  [("true", fun _ _ st => st.withStatus 0), ("false", fun _ _ st => st.withStatus 1), ("cd", cd), ("chdir", cd),
   ("echo", echo), ("printf", printf), ("test", test), ("[", test), ("kill", kill), ("wait", wait), ("read", read),
   ("local", declareLocal), ("umask", umask), ("pwd", pwd), ("hash", fun _ _ st => st.withStatus 0),
   ("jobs", fun _ _ st => st.withStatus 0), ("ulimit", fun _ _ => say (lit "ulimit") (lit "unlimited\n")),
   ("alias", fun _ _ st => st.withStatus 0), ("unalias", fun _ _ st => st.withStatus 0),
   ("getopts", fun _ _ st => st.withStatus 1), ("bg", fun _ _ st => st.withStatus 0),
   ("fg", fun _ _ st => st.withStatus 0)]

/-- What a name is among the shell's own commands. -/
def find? (name : Octets) : Option Builtin :=
  let name := String.ofList name
  special.lookup name <|> regular.lookup name

/-- The command that runs another past the functions, and the one that only tells what it is. -/
def lookups : List String := ["command", "type"]

/-- Whether a name is one of the shell's own commands. -/
def isOwn (name : Octets) : Bool :=
  (find? name).isSome || lookups.contains (String.ofList name)

/-- Tells what a name stands for: nothing when it stands for nothing. -/
def whatIs (name : Octets) (st : State) : Option (Octets × Octets) :=
  if Grammar.reserved.contains (String.ofList name) then some (name, lit " is a shell keyword")
  else if (special.lookup (String.ofList name)).isSome then some (name, lit " is a special shell builtin")
  else if (st.shell.functions.lookup name).isSome then some (name, lit " is a shell function")
  else if isOwn name then some (name, lit " is a shell builtin")
  else
    match Launch.search st name with
    | .ok (path, _) => some (path, lit " is " ++ path)
    | .error _ => none

/-- `type`. -/
def tellType : Builtin := fun _ args st =>
  (args.drop 1).foldl (fun st name =>
    match whatIs name st with
    | some (_, words) => say (lit "type") (name ++ words ++ ['\n']) st
    | none => (say (lit "type") (name ++ lit ": not found\n") st).withStatus 127) (st.withStatus 0)

/-- `command -v`. -/
def tell (names : List Octets) (st : State) : State :=
  names.foldl (fun st name =>
    match whatIs name st with
    | some (path, _) => say (lit "command") (path ++ ['\n']) st
    | none => st.withStatus 127) (st.withStatus 0)

end Builtin

end QueryGateway.Shell
