import QueryGateway.Engine.Environment
import QueryGateway.Engine.Pump
import QueryGateway.Shell.Eval

/-!
# The host of the engines

Starting an engine on a host: the program is found and made a process with nothing to read and two channels to print
on; what it prints, when the channels are closed by everybody who holds them, and how it ends are the sights of its
run. Files that it changes stay changed.
-/

namespace QueryGateway.Shell

/-- A host: the variables that the gateway was started with, and the names of those that engines get to see. -/
structure Host where
  allowlist : List String := Environment.standardAllowlist
  environment : Environment := []
deriving Repr, Inhabited

namespace Host

/-! ## Files -/

/-- The directories of a host. -/
def directories : List String := ["bin", "dev", "etc", "tmp", "usr"]

/-- A place in one of the top directories. -/
def inside (directory name : String) : Place := [Text.encode name, Text.encode directory]

/-- The devices of a host. -/
def devices : List (String × Nat) :=
  [("null", nullDevice), ("zero", zeroDevice), ("full", fullDevice), ("stdin", 0), ("stdout", 1), ("stderr", 2)]

/-- A program as a file. -/
def programFile (name : String) : Node :=
  .file (Octets.toBytes (Image.mark ++ name.toList)) 0o755

/-- The accounts of a host. -/
def accounts : Bytes := Text.encode "root:x:0:0:root:/root:/bin/sh\n"

/-- The files that a host has of itself. -/
def standardTree : Tree :=
  let programs := Launch.programNames.flatMap fun name =>
    [(inside "bin" name, programFile name), (inside "usr" "bin" |> (Text.encode name :: ·), programFile name)]
  { nodes :=
      (directories.map fun d => ([Text.encode d], Node.directory)) ++
      [(inside "usr" "bin", .directory), (inside "etc" "passwd", .file accounts 0o644)] ++
      (devices.map fun (name, n) => (inside "dev" name, .device n)) ++ programs }

/-! ## Starting -/

/-- The longest argument, its end mark included. -/
def maxArgument : Nat := 131072

/-- How much room arguments and variables may take together. -/
def maxArguments : Nat := 2097152

/-- The words for a text with a zero byte in it, which no program can be given. -/
def zeroByte : String := "nul byte found in provided data"

/-- The time that a process takes to come up. -/
def startup : Nat := 1000000

/-- How much more than its limit an engine may print before it is taken to print for ever. -/
def slack : Nat := 4000000

/-- Why an image cannot be started as a process, if it cannot. -/
def imageFault (tree : Tree) (content : Octets) : Option FileFault :=
  match Image.ofContent content with
  | .text => some (.os .noExecFormat)
  | _ => Launch.interpreterFault tree [] content

/-- The file that starts as the program of a call, or why nothing does. -/
def find (bindings : List (String × String)) (call : Call) (tree : Tree) : Except String (Octets × Octets) :=
  let words := call.arguments.map Octets.ofString
  let settings := bindings.map fun (name, value) => Octets.ofString name ++ '=' :: Octets.ofString value
  let program := Octets.ofBytes call.program.bytes
  let path := Octets.splitOn ':' (((bindings.lookup "PATH").map Octets.ofString).getD Launch.sparePath)
  if (program :: words ++ settings).any fun o => o.contains '\x00' then .error zeroByte
  else
    match Image.search tree [] path program with
    | .error f => .error f.message
    | .ok (path, content) =>
      let sizes := (program :: words ++ settings).map fun o => o.length + 1
      if sizes.any (maxArgument < ·) ∨ maxArguments < sizes.foldl (· + · + 8) 0 then
        .error Errno.argumentsTooLong.message
      else
        match imageFault tree content with
        | some f => .error f.message
        | none => .ok (path, content)

/-- The process of a call before its first step. -/
def process (bindings : List (String × String)) (call : Call) (tree : Tree) : State :=
  let number := 4242
  let exported := bindings.reverse.map fun (name, value) =>
    (Octets.ofString name, ({ value := some (Octets.ofString value), exported := true } : Variable))
  let room := match call.bounds.overflow with
    | .abort => call.bounds.outputLimit
    | .truncate => call.bounds.outputLimit + slack
  { shell :=
      { name := Octets.ofBytes call.program.bytes, bindings := exported, process := number, leader := number,
        descriptors := [(0, .device nullDevice), (1, .channel .stdout), (2, .channel .stderr)] },
    machine :=
      { tree := tree, clock := startup, horizon := call.bounds.timeout.nanoseconds, room := room, next := number + 1 } }

/-- The variables of a host that engines get to see. -/
def passedOn (host : Host) : List (String × String) :=
  Environment.forChild host.allowlist host.environment

/-- The process that a run of a call starts on a host. -/
def child (host : Host) (call : Call) (tree : Tree) : State :=
  process host.passedOn call tree

/-- Runs the process of a call to its end, or up to its deadline. -/
def execute (path content : Octets) (call : Call) (st : State) : State :=
  if st.machine.horizon ≤ st.machine.clock then { st with flow := .late }
  else
    let p := Eval.powers Eval.standardDepth
    let args := Octets.ofBytes call.program.bytes :: call.arguments.map Octets.ofString
    (Process.finish p (Launch.start p path content args st)).letGo

/-! ## What is seen -/

/-- The status of a process that has ended. -/
def statusOf (st : State) : Option WaitStatus :=
  match st.flow with
  | .late => none
  | .flooded => none
  | .killed n => some (.ofSignal (UInt32.ofNat n))
  | _ => some (.ofCode (UInt8.ofNat st.shell.status))

/-- When the last process that held a channel let go of it. -/
def closing (m : Machine) (c : Channel) : Nat :=
  (m.releases.filter fun r => r.channel = c).foldl (fun t r => max t r.time) 0

/-- What happens in a run, with its times and in their order. -/
def timedSights (st : State) : List (Nat × Sight) :=
  let prints := st.machine.prints.reverse.map fun p => (p.time, Sight.read p.channel (Octets.toBytes p.octets))
  let closings := [Channel.stdout, .stderr].map fun c => (closing st.machine c, Sight.read c [])
  let ended := (statusOf st).toList.map fun s => (st.machine.clock, Sight.ended s)
  (prints ++ (if st.flow = .flooded then [] else closings) ++ ended).mergeSort fun a b => a.1 ≤ b.1

/-- What is seen of a run before a deadline. -/
def before (deadline : Nat) (sights : List (Nat × Sight)) : List (Nat × Sight) :=
  sights.takeWhile fun s => s.1 < deadline

/-- Reads of one channel that follow each other, as one read. The end of a channel stays a read of its own. -/
def joined (sights : List (Nat × Sight)) : List (Nat × Sight) :=
  sights.foldr (fun sight done =>
    match sight, done with
    | (_, .read c (b :: bs)), (time, .read d (e :: es)) :: rest =>
      if c = d then (time, .read c (b :: bs ++ e :: es)) :: rest else sight :: done
    | _, _ => sight :: done) []

/-- When the pump has its answer: with the sight that ends it, or at the deadline. -/
def answered (bounds : Bounds) (p : Pump) : List (Nat × Sight) → Nat
  | [] => bounds.timeout.nanoseconds
  | (time, sight) :: rest =>
    let p := p.step bounds sight
    if p.ending.isSome then time else answered bounds p rest

/-- A run of an engine: how the operating system met it, how long it took, and the files after it. -/
def run (host : Host) (call : Call) (tree : Tree) : Course × Span × Tree :=
  match find host.passedOn call tree with
  | .error reason => (.notStarted reason, ⟨0⟩, tree)
  | .ok (path, content) =>
    let st := execute path content call (host.child call tree)
    let sights := joined (before call.bounds.timeout.nanoseconds (timedSights st))
    (.started (sights.map Prod.snd), ⟨answered call.bounds {} sights⟩, st.machine.tree)

end Host

end QueryGateway.Shell
