import QueryGateway.Shell.Condition
import QueryGateway.Shell.Format
import QueryGateway.Shell.Pattern

/-!
# Programs

The programs that a script finds on its path: those that print, copy, count and cut text, handle files, or wait. Each is
given its arguments and the state of its own process, and leaves its status there.
-/

namespace QueryGateway.Shell

/-- A program: what it does with its arguments, its name first. -/
abbrev Tool := List Octets → State → State

namespace Tool

/-- The octets of a literal. -/
abbrev lit (s : String) : Octets := s.toList

/-- Prints to the output. A process that cannot print complains and fails. -/
def emit (name : Octets) (data : Octets) (st : State) : State :=
  match st.write 1 data with
  | (none, st) => st
  | (some e, st) =>
    (st.complainOctets (name ++ lit ": write error: " ++ lit e.text)).withStatus 1

/-- Complains under the name of the program and fails. -/
def fail (name message : Octets) (status : Nat) (st : State) : State :=
  (st.complainOctets (name ++ lit ": " ++ message)).withStatus status

/-- The text of a failed operation on files. -/
def faultText : FileFault → Octets
  | .os e => lit e.text
  | .other text => lit text

/-- A path from octets. -/
abbrev path (o : Octets) : Path := Condition.path o

/-- The last component of a path. -/
def lastName (o : Octets) : Octets :=
  match (o.reverse.dropWhile (· = '/')).takeWhile (· ≠ '/') with
  | [] => if o.isEmpty then [] else ['/']
  | name => name.reverse

/-- A path without its last component. -/
def directoryName (o : Octets) : Octets :=
  let body := o.reverse.dropWhile (· = '/')
  match body.dropWhile (· ≠ '/') with
  | [] => if body.isEmpty ∧ !o.isEmpty then ['/'] else ['.']
  | rest =>
    match rest.dropWhile (· = '/') with
    | [] => ['/']
    | above => above.reverse

/-- What can be read from an operand: a file, or the input for a hyphen. -/
def source (name : Octets) (operand : Octets) (st : State) : Option Feed × State :=
  let now := st.machine.clock
  if operand = ['-'] then
    match st.readAll 0 with
    | (some feed, st) => (some feed, st)
    | (none, st) => (none, fail name (lit "-: Bad file descriptor") 1 st)
  else
    match st.machine.tree.find st.shell.cwd (path operand) with
    | .ok (_, .file content _) => (some ⟨[(now, Octets.ofBytes content)], now⟩, st)
    | .ok (_, .directory) => (none, fail name (operand ++ lit ": Is a directory") 1 st)
    | .ok (_, .device n) =>
      if n = zeroDevice then (some ⟨[(now, List.replicate State.pipeLimit '\x00')], st.machine.horizon⟩, st)
      else (some ⟨[], now⟩, st)
    | .ok (_, .link _) => (none, fail name (operand ++ lit ": No such file or directory") 1 st)
    | .error f => (none, fail name (operand ++ lit ": " ++ faultText f) 1 st)

/-- Everything that operands give, waited for, as one text. -/
def gather (name : Octets) (operands : List Octets) (st : State) : Octets × State :=
  let operands := if operands.isEmpty then [['-']] else operands
  operands.foldl (fun (text, st) operand =>
    if !st.goes then (text, st)
    else
      match source name operand st with
      | (none, st) => (text, st)
      | (some feed, st) => (text ++ (feed.pieces.map Prod.snd).flatten, st.waitUntil feed.ends)) ([], st)

/-- Runs an action on a feed piece by piece, each at its time, and then waits for its end. -/
def stream (feed : Feed) (act : Octets → State → State) (st : State) : State :=
  let st := feed.pieces.foldl (fun st (time, data) =>
    if st.goes then
      let st := if st.machine.clock < time then st.waitUntil time else st
      if st.goes then act data st else st
    else st) st
  if st.goes ∧ st.machine.clock < feed.ends then st.waitUntil feed.ends else st

/-- Whether an argument is a group of option letters. -/
def isOptions (letters : String) (o : Octets) : Bool :=
  match o with
  | '-' :: c :: rest => (c :: rest).all letters.toList.contains
  | _ => false

/-- Leading arguments that are option letters, and the rest. -/
def options (letters : String) (args : List Octets) : Octets × List Octets :=
  let given := args.takeWhile (isOptions letters)
  let rest := args.drop given.length
  ((given.map (·.drop 1)).flatten, if rest.head? = some (lit "--") then rest.drop 1 else rest)

/-! ## Printing -/

/-- Joins words with blanks. -/
def unwords (words : List Octets) : Octets :=
  (words.intersperse [' ']).flatten

/-- `echo` as a program of its own: escapes only count when asked for. -/
def echo : Tool := fun args st =>
  let words := args.drop 1
  let options := words.takeWhile (isOptions "neE")
  let given := (options.map (·.drop 1)).flatten
  let rest := words.drop options.length
  let text := unwords rest
  let escapes := (given.filter fun c => c = 'e' || c = 'E').getLast? = some 'e'
  let (text, whole) := if escapes then Format.echoed text else (text, true)
  let ending := if given.contains 'n' || !whole then [] else ['\n']
  emit (lit "echo") (text ++ ending) (st.withStatus 0)

/-- `printf`. -/
def printf : Tool := fun args st =>
  match args.drop 1 with
  | [] => fail (lit "printf") (lit "missing operand") 1 st
  | format :: rest =>
    let made := Format.run format rest
    let st := emit (lit "printf") made.out (st.withStatus 0)
    made.complaints.foldl (fun st (a, words) =>
      fail (lit "printf") (lit "'" ++ a ++ lit "': " ++ lit words) 1 st) st

/-- `yes`: prints its words for ever. -/
def yes : Tool := fun args st =>
  let line := (if args.length ≤ 1 then ['y'] else unwords (args.drop 1)) ++ ['\n']
  let amount := match st.target? 1 with
    | some (.channel _) => st.machine.room + 1
    | some (.pipe _) => State.pipeLimit + 1
    | _ => 0
  let data := (List.replicate (amount / line.length + 1) line).flatten
  match st.write 1 data with
  | (some e, st) => fail (lit "yes") (lit "standard output: " ++ lit e.text) 1 st
  | (none, st) => if st.goes then st.waitUntil st.machine.horizon else st

/-- `seq` over integers. -/
def seq : Tool := fun args st =>
  let (separator, operands) : Octets × List Octets := match args.drop 1 with
    | ['-', 's'] :: s :: rest => (s, rest)
    | rest => (['\n'], rest)
  match operands.mapM Octets.int? with
  | some numbers =>
    let (first, stride, last) : Int × Int × Int := match numbers with
      | [n] => (1, 1, n)
      | [a, b] => (a, 1, b)
      | [a, s, b] => (a, s, b)
      | _ => (1, 1, 0)
    let steps := if stride = 0 then 0 else if 0 < stride then (last - first) / stride else (first - last) / -stride
    let count := if steps < 0 then 0 else steps.toNat + 1
    let texts := (List.range count).map fun (i : Nat) => Octets.ofInt (first + stride * (i : Int))
    let out := if texts.isEmpty then [] else (texts.intersperse separator).flatten ++ ['\n']
    emit (lit "seq") out (st.withStatus 0)
  | none =>
    let bad := (operands.find? fun o => (Octets.int? o).isNone).getD []
    fail (lit "seq")
      (lit "invalid floating point argument: '" ++ bad ++ lit "'\nTry 'seq --help' for more information.") 1 st

/-! ## Waiting -/

/-- The nanoseconds of a decimal number of units. -/
def duration? (o : Octets) : Option Nat :=
  let unit? : Option (Nat × Octets) := match o.getLast? with
    | some 's' => some (1, o.dropLast)
    | some 'm' => some (60, o.dropLast)
    | some 'h' => some (3600, o.dropLast)
    | some 'd' => some (86400, o.dropLast)
    | _ => some (1, o)
  match unit? with
  | none => none
  | some (unit, body) =>
    let whole := body.takeWhile (· ≠ '.')
    let fraction := (body.dropWhile (· ≠ '.')).drop 1
    if body = lit "infinity" ∨ body = lit "inf" then some (Nat.pow 10 30)
    else if (whole ++ fraction).isEmpty ∨ !(whole ++ fraction).all Char.isDigit then none
    else
      let digits := (fraction ++ List.replicate 9 '0').take 9
      some (unit * ((Octets.readBase 10 0 whole).1 * 1000000000 + (Octets.readBase 10 0 digits).1))

/-- `sleep`. -/
def sleep : Tool := fun args st =>
  match args.drop 1 with
  | [] => fail (lit "sleep") (lit "missing operand\nTry 'sleep --help' for more information.") 1 st
  | operands =>
    match operands.mapM duration? with
    | some spans => (st.withStatus 0).pass (spans.foldl (· + ·) 0)
    | none =>
      let bad := (operands.find? fun o => (duration? o).isNone).getD []
      fail (lit "sleep")
        (lit "invalid time interval '" ++ bad ++ lit "'\nTry 'sleep --help' for more information.") 1 st

/-! ## Text -/

/-- `cat`. -/
def cat : Tool := fun args st =>
  let operands := if args.length ≤ 1 then [['-']] else args.drop 1
  operands.foldl (fun st operand =>
    if !st.goes then st
    else
      match source (lit "cat") operand st with
      | (none, st) => st
      | (some feed, st) => stream feed (emit (lit "cat")) st) (st.withStatus 0)

/-- A count with a suffix for thousands. -/
def count? (o : Octets) : Option Nat :=
  match o.getLast? with
  | some 'k' => (Octets.nat? o.dropLast).map (· * 1024)
  | some 'K' => (Octets.nat? o.dropLast).map (· * 1024)
  | some 'M' => (Octets.nat? o.dropLast).map (· * 1048576)
  | _ => Octets.nat? o

/-- What `head` and `tail` were asked for: bytes or lines, from the front or counted from the other side, and of what.
-/
structure Share where
  bytes : Bool := false
  count : Nat := 10
  sign : Option Char := none
  operands : List Octets := []

/-- A count with an optional sign. -/
def Share.number (s : Share) (bytes : Bool) (o : Octets) : Option Share :=
  let sign := o.head?.filter fun c => c = '-' || c = '+'
  (count? (if sign.isSome then o.drop 1 else o)).map fun n => { s with bytes := bytes, count := n, sign := sign }

/-- The arguments of `head` and `tail`. -/
def Share.ofArguments : List Octets → Share → Option Share
  | [], s => some s
  | ['-', 'n'] :: n :: rest, s => (s.number false n).bind (ofArguments rest)
  | ['-', 'c'] :: n :: rest, s => (s.number true n).bind (ofArguments rest)
  | ('-' :: 'n' :: n) :: rest, s => (s.number false n).bind (ofArguments rest)
  | ('-' :: 'c' :: n) :: rest, s => (s.number true n).bind (ofArguments rest)
  | ('-' :: d :: n) :: rest, s =>
    if d.isDigit then (s.number false (d :: n)).bind (ofArguments rest) else none
  | o :: rest, s => ofArguments rest { s with operands := s.operands ++ [o] }

/-- The part of a text up to the end of its n-th line. -/
def takeLines (n : Nat) (o : Octets) : Octets :=
  ((Octets.lines o).take n).flatten

/-- Passes on the front of a feed and stops as soon as it has enough. -/
def front (bytes : Bool) : Nat → List (Nat × Octets) → Nat → State → State
  | left, [], ends, st => if left = 0 then st else st.waitUntil ends
  | left, (time, data) :: rest, ends, st =>
    if left = 0 ∨ !st.goes then st
    else
      let st := if st.machine.clock < time then st.waitUntil time else st
      if !st.goes then st
      else
        let part := if bytes then data.take left else takeLines left data
        let used := if bytes then part.length else part.count '\n'
        front bytes (left - used) rest ends (emit (lit "head") part st)

/-- `head`. -/
def head : Tool := fun args st =>
  match Share.ofArguments (args.drop 1) {} with
  | none => fail (lit "head") (lit "invalid number of lines") 1 st
  | some share =>
    let operands := if share.operands.isEmpty then [['-']] else share.operands
    operands.foldl (fun st operand =>
      match source (lit "head") operand st with
      | (none, st) => st
      | (some feed, st) =>
        if share.sign = some '-' then
          let text := (feed.pieces.map Prod.snd).flatten
          let st := st.waitUntil feed.ends
          let size := if share.bytes then text.length else (Octets.lines text).length
          let kept := size - share.count
          emit (lit "head") (if share.bytes then text.take kept else takeLines kept text) st
        else front share.bytes share.count feed.pieces feed.ends st) (st.withStatus 0)

/-- `tail`. -/
def tail : Tool := fun args st =>
  match Share.ofArguments (args.drop 1) {} with
  | none => fail (lit "tail") (lit "invalid number of lines") 1 st
  | some share =>
    let (text, st) := gather (lit "tail") share.operands (st.withStatus 0)
    if !st.goes then st
    else
      let start (size : Nat) : Nat := if share.sign = some '+' then share.count - 1 else size - share.count
      let part :=
        if share.bytes then text.drop (start text.length)
        else
          let lines := Octets.lines text
          (lines.drop (start lines.length)).flatten
      emit (lit "tail") part st

/-- How many words a text has. -/
def wordCount : Bool → Octets → Nat → Nat
  | _, [], n => n
  | inside, c :: rest, n =>
    if [' ', '\t', '\n', '\r', '\x0b', '\x0c'].contains c then wordCount false rest n
    else wordCount true rest (if inside then n else n + 1)

/-- A number padded on the left. -/
def padLeft (width : Nat) (o : Octets) : Octets :=
  List.replicate (width - o.length) ' ' ++ o

/-- `wc`. -/
def wc : Tool := fun args st =>
  let (given, operands) := options "lwcm" (args.drop 1)
  let wants (c : Char) : Bool := given.contains c || given.isEmpty
  let counts (text : Octets) : List Nat :=
    (if wants 'l' then [text.count '\n'] else []) ++ (if wants 'w' then [wordCount false text 0] else []) ++
      (if wants 'c' || given.contains 'm' then [text.length] else [])
  let report (width : Nat) (text name : Octets) (st : State) : State :=
    let numbers := (counts text).map fun n => padLeft width (Octets.ofNat n)
    emit (lit "wc") (unwords (numbers ++ if name.isEmpty then [] else [name]) ++ ['\n']) st
  let single := (counts []).length = 1
  if operands.isEmpty then
    let (text, st) := gather (lit "wc") [] (st.withStatus 0)
    if st.goes then report (if single then 0 else 7) text [] st else st
  else
    operands.foldl (fun st operand =>
      match source (lit "wc") operand st with
      | (none, st) => st
      | (some feed, st) =>
        let text := (feed.pieces.map Prod.snd).flatten
        report (if single then 0 else (Octets.ofNat text.length).length) text operand (st.waitUntil feed.ends))
      (st.withStatus 0)

/-- The members of a set of `tr`: characters, ranges, escapes and classes. -/
def setMembers : Nat → Octets → Octets
  | 0, _ => []
  | _ + 1, [] => []
  | fuel + 1, '[' :: ':' :: rest =>
    let range (a b : Char) : Octets := (List.range (b.toNat - a.toNat + 1)).map fun i => Char.ofNat (a.toNat + i)
    let name := String.ofList (rest.takeWhile (· ≠ ':'))
    let members := match name with
      | "upper" => range 'A' 'Z'
      | "lower" => range 'a' 'z'
      | "digit" => range '0' '9'
      | "alpha" => range 'A' 'Z' ++ range 'a' 'z'
      | "alnum" => range '0' '9' ++ range 'A' 'Z' ++ range 'a' 'z'
      | "space" => range '\t' '\r' ++ [' ']
      | _ => []
    members ++ setMembers fuel ((rest.dropWhile (· ≠ ':')).drop 2)
  | fuel + 1, '\\' :: c :: rest =>
    match Format.shortEscape? c with
    | some d => d :: setMembers fuel rest
    | none =>
      if Format.isOctal c then
        let digits := Format.octal 3 (c :: rest)
        Format.octalChar digits :: setMembers fuel ((c :: rest).drop digits.length)
      else c :: setMembers fuel rest
  | fuel + 1, a :: '-' :: b :: rest =>
    (List.range (b.toNat + 1 - a.toNat)).map (fun i => Char.ofNat (a.toNat + i)) ++ setMembers fuel rest
  | fuel + 1, c :: rest => c :: setMembers fuel rest

/-- Leaves one of neighbouring equal members of a set. -/
def squeeze (set : Octets) : Option Char → Octets → Octets → Octets
  | _, acc, [] => acc.reverse
  | last, acc, c :: rest =>
    if last = some c ∧ set.contains c then squeeze set last acc rest else squeeze set (some c) (c :: acc) rest

/-- `tr`. -/
def tr : Tool := fun args st =>
  let (given, operands) := options "dsc" (args.drop 1)
  let sets := operands.map fun o => setMembers (o.length + 1) o
  let first := sets.getD 0 []
  let second := sets.getD 1 []
  let inFirst (c : Char) : Bool := first.contains c != given.contains 'c'
  let translate (c : Char) : Char :=
    if given.contains 'c' then (if inFirst c then second.getLast?.getD c else c)
    else
      match first.findIdx? (· = c) with
      | some i => second.getD i (second.getLast?.getD c)
      | none => c
  let change (data : Octets) : Octets :=
    let data :=
      if given.contains 'd' then data.filter (!inFirst ·)
      else if second.isEmpty then data
      else data.map translate
    if given.contains 's' then squeeze (if second.isEmpty then first else second) none [] data else data
  match st.readAll 0 with
  | (none, st) => st.withStatus 1
  | (some feed, st) => stream feed (fun data => emit (lit "tr") (change data)) (st.withStatus 0)

/-- A line without its newline. -/
def chomp (line : Octets) : Octets :=
  if line.getLast? = some '\n' then line.dropLast else line

/-- The number at the front of a line. -/
def leadingNumber (line : Octets) : Int :=
  match line.dropWhile (· = ' ') with
  | '-' :: rest => -((Octets.readBase 10 0 rest).1 : Int)
  | rest => (Octets.readBase 10 0 rest).1

/-- Leaves one of neighbouring equal lines. -/
def unrepeated : List Octets → List Octets
  | a :: b :: rest => if a = b then unrepeated (b :: rest) else a :: unrepeated (b :: rest)
  | lines => lines

/-- `sort`. -/
def sort : Tool := fun args st =>
  let (given, operands) := options "rnu" (args.drop 1)
  let (text, st) := gather (lit "sort") operands (st.withStatus 0)
  if !st.goes then st
  else
    let lines := (Octets.lines text).map chomp
    let le (a b : Octets) : Bool :=
      if given.contains 'n' ∧ leadingNumber a ≠ leadingNumber b then leadingNumber a < leadingNumber b
      else Octets.le a b
    let sorted := lines.mergeSort le
    let sorted := if given.contains 'r' then sorted.reverse else sorted
    let sorted := if given.contains 'u' then unrepeated sorted else sorted
    emit (lit "sort") (sorted.flatMap (· ++ ['\n'])) st

/-- `uniq`. -/
def uniq : Tool := fun args st =>
  let (text, st) := gather (lit "uniq") (args.drop 1) (st.withStatus 0)
  if st.goes then emit (lit "uniq") ((unrepeated ((Octets.lines text).map chomp)).flatMap (· ++ ['\n'])) st else st

/-- `rev`: every line backwards. -/
def rev : Tool := fun args st =>
  let (text, st) := gather (lit "rev") (args.drop 1) (st.withStatus 0)
  let backwards (l : Octets) : Octets := (chomp l).reverse ++ l.drop (chomp l).length
  if st.goes then emit (lit "rev") ((Octets.lines text).flatMap backwards) st else st

/-- `tac`: the lines in reverse order. -/
def tac : Tool := fun args st =>
  let (text, st) := gather (lit "tac") (args.drop 1) (st.withStatus 0)
  if st.goes then emit (lit "tac") (Octets.lines text).reverse.flatten st else st

/-- The numbers that a list of positions holds: single ones, ranges and open ends. -/
def inPositions (list : Octets) (n : Nat) : Bool :=
  (Octets.splitOn ',' list).any fun part =>
    match Octets.splitOn '-' part with
    | [a] => Octets.nat? a = some n
    | [a, b] => (Octets.nat? a).getD 1 ≤ n && (b.isEmpty || n ≤ (Octets.nat? b).getD 0)
    | _ => false

/-- `cut` by bytes or by fields. -/
def cut : Tool := fun args st =>
  let value (letter : Char) : List Octets → Option Octets :=
    let rec find : List Octets → Option Octets
      | ('-' :: c :: v) :: rest => if c = letter then (if v.isEmpty then rest.head? else some v) else find rest
      | _ :: rest => find rest
      | [] => none
    find
  let args := args.drop 1
  let delimiter := ((value 'd' args).bind List.head?).getD '\t'
  let (text, st) := gather (lit "cut") [] (st.withStatus 0)
  if !st.goes then st
  else
    let pick {α : Type} (list : Octets) (xs : List α) : List α :=
      (xs.zipIdx.filter fun (_, i) => inPositions list (i + 1)).map Prod.fst
    let line (l : Octets) : Octets :=
      match value 'f' args, (value 'c' args <|> value 'b' args) with
      | some list, _ =>
        let parts := Octets.splitOn delimiter l
        if parts.length = 1 then l else ((pick list parts).intersperse [delimiter]).flatten
      | none, some list => pick list l
      | none, none => l
    emit (lit "cut") ((Octets.lines text).flatMap fun l => line (chomp l) ++ ['\n']) st

/-- `tee`. -/
def tee : Tool := fun args st =>
  let (given, operands) := options "a" (args.drop 1)
  let write (append : Bool) (data : Octets) (st : State) (o : Octets) : State :=
    let old := if append then ((st.machine.tree.read st.shell.cwd (path o)).toOption).getD [] else []
    match st.machine.tree.write st.shell.cwd (path o) (old ++ Octets.toBytes data) with
    | .ok t => st.onMachine fun m => { m with tree := t }
    | .error f => fail (lit "tee") (o ++ lit ": " ++ faultText f) 1 st
  let st := operands.foldl (write (given.contains 'a') []) (st.withStatus 0)
  match st.readAll 0 with
  | (none, st) => st.withStatus 1
  | (some feed, st) => stream feed (fun data st => operands.foldl (write true data) (emit (lit "tee") data st)) st

/-! ## Searching -/

/-- An atom of a search pattern: any character, a set, or a character. -/
inductive Atom where
  | any
  | set (negated : Bool) (ranges : List (Char × Char))
  | char (c : Char)
deriving Repr, Inhabited

/-- Whether an atom matches a character. -/
def Atom.accepts (a : Atom) (c : Char) : Bool :=
  match a with
  | any => true
  | set negated ranges => (ranges.any fun (low, high) => low ≤ c && c ≤ high) != negated
  | char d => c = d

/-- The atoms of a search pattern, each with whether it is repeated. -/
def atoms (fixed fold : Bool) : Nat → Octets → List (Atom × Bool)
  | 0, _ => []
  | _ + 1, [] => []
  | fuel + 1, c :: rest =>
    let fit (c : Char) : Atom := .char (if fold then c.toLower else c)
    let (atom, rest) : Atom × Octets :=
      if fixed then (fit c, rest)
      else if c = '.' then (.any, rest)
      else if c = '\\' then (match rest with
        | d :: after => (fit d, after)
        | [] => (fit c, []))
      else if c = '[' then
        match Pattern.bracket? (rest.map fun d => (d, false)) with
        | some (negated, ranges, after) => (.set negated ranges, after.map Prod.fst)
        | none => (fit c, rest)
      else (fit c, rest)
    match rest with
    | '*' :: after =>
      if fixed then (atom, false) :: atoms fixed fold fuel rest else (atom, true) :: atoms fixed fold fuel after
    | _ => (atom, false) :: atoms fixed fold fuel rest

/-- Whether atoms match at the front of a text, up to its end if `whole`. -/
def matchesHere (whole : Bool) : Nat → List (Atom × Bool) → Octets → Bool
  | 0, _, _ => false
  | _ + 1, [], s => !whole || s.isEmpty
  | fuel + 1, (a, false) :: rest, s =>
    match s with
    | c :: after => a.accepts c && matchesHere whole fuel rest after
    | [] => false
  | fuel + 1, (a, true) :: rest, s =>
    matchesHere whole fuel rest s || (match s with
      | c :: after => a.accepts c && matchesHere whole fuel ((a, true) :: rest) after
      | [] => false)

/-- Whether a line holds a match of a pattern. -/
def searches (fixed fold : Bool) (pattern line : Octets) : Bool :=
  let line := if fold then line.map Char.toLower else line
  let anchored := !fixed && pattern.head? = some '^'
  let body := if anchored then pattern.drop 1 else pattern
  let whole := !fixed && body.getLast? = some '$'
  let items := atoms fixed fold (body.length + 1) (if whole then body.dropLast else body)
  let fuel := items.length + line.length + 2
  let starts := if anchored then [0] else List.range (line.length + 1)
  starts.any fun i => matchesHere whole fuel items (line.drop i)

/-- `grep`. -/
def grep : Tool := fun args st =>
  let (given, operands) := options "qcvniFsE" (args.drop 1)
  match operands with
  | [] => fail (lit "grep") (lit "no pattern") 2 st
  | pattern :: files =>
    let has (c : Char) : Bool := given.contains c
    let (text, st) := gather (lit "grep") files (st.withStatus 0)
    let trouble := st.shell.status ≠ 0
    if !st.goes then st
    else
      let lines := (Octets.lines text).map chomp
      let hits := lines.zipIdx.filter fun (l, _) => searches (has 'F') (has 'i') pattern l != has 'v'
      let shown := if has 'q' then []
        else if has 'c' then Octets.ofNat hits.length ++ ['\n']
        else hits.flatMap fun (l, i) => (if has 'n' then Octets.ofNat (i + 1) ++ [':'] else []) ++ l ++ ['\n']
      (emit (lit "grep") shown st).withStatus (if trouble then 2 else if hits.isEmpty then 1 else 0)

/-! ## Files -/

/-- Changes the tree, or complains with the words for the failure. -/
def change (name : Octets) (words : Octets) (outcome : Except FileFault Tree) (st : State) : State :=
  match outcome with
  | .ok t => st.onMachine fun m => { m with tree := t }
  | .error f => fail name (words ++ lit ": " ++ faultText f) 1 st

/-- A name between quotes. -/
def quote (o : Octets) : Octets := ['\''] ++ o ++ ['\'']

/-- `touch`. -/
def touch : Tool := fun args st =>
  (args.drop 1).foldl (fun st o =>
    match st.machine.tree.find st.shell.cwd (path o) with
    | .ok _ => st
    | .error _ =>
      change (lit "touch") (lit "cannot touch " ++ quote o) (st.machine.tree.write st.shell.cwd (path o) []) st)
    (st.withStatus 0)

/-- `mkdir`. -/
def mkdir : Tool := fun args st =>
  let (given, operands) := options "pv" (args.drop 1)
  operands.foldl (fun st o =>
    let t := st.machine.tree
    let outcome := if given.contains 'p' then
        match t.makeAll st.shell.cwd (path o) with
        | (none, t) => .ok t
        | (some f, _) => .error f
      else t.makeDirectory st.shell.cwd (path o)
    change (lit "mkdir") (lit "cannot create directory " ++ quote o) outcome st) (st.withStatus 0)

/-- `rmdir`. -/
def rmdir : Tool := fun args st =>
  (args.drop 1).foldl (fun st o =>
    let t := st.machine.tree
    let outcome := match t.names st.shell.cwd (path o) with
      | some (_ :: _) => .error (.os .notEmpty)
      | _ => t.removeAll st.shell.cwd (path o)
    change (lit "rmdir") (lit "failed to remove " ++ quote o) outcome st) (st.withStatus 0)

/-- `rm`. -/
def rm : Tool := fun args st =>
  let (given, operands) := options "rRfv" (args.drop 1)
  operands.foldl (fun st o =>
    let t := st.machine.tree
    match t.remove st.shell.cwd (path o) with
    | .ok t => st.onMachine fun m => { m with tree := t }
    | .error f =>
      if f = .os .isDirectory ∧ (given.contains 'r' ∨ given.contains 'R') then
        change (lit "rm") (lit "cannot remove " ++ quote o) (t.removeAll st.shell.cwd (path o)) st
      else if f = .os .notFound ∧ given.contains 'f' then st
      else fail (lit "rm") (lit "cannot remove " ++ quote o ++ lit ": " ++ faultText f) 1 st) (st.withStatus 0)

/-- The path of a file that goes into a directory, or the path itself. -/
def into (st : State) (source goal : Octets) : Octets :=
  if st.machine.tree.isDirectory st.shell.cwd (path goal) then
    (if goal.getLast? = some '/' then goal else goal ++ ['/']) ++ lastName source
  else goal

/-- `mv`. -/
def mv : Tool := fun args st =>
  let (_, operands) := options "fnv" (args.drop 1)
  match operands.reverse with
  | goal :: sources@(_ :: _) =>
    sources.reverse.foldl (fun st o =>
      let t := st.machine.tree
      let goal := into st o goal
      match t.locate st.shell.cwd false (path o), t.locate st.shell.cwd false (path goal) with
      | .ok old, .ok new =>
        if (t.at? old).isNone then
          fail (lit "mv") (lit "cannot stat " ++ quote o ++ lit ": No such file or directory") 1 st
        else
          let moved := t.nodes.filterMap fun (p, n) =>
            if Tree.under old p then some (p.take (p.length - old.length) ++ new, n)
            else if p = new then none else some (p, n)
          st.onMachine fun m => { m with tree := { nodes := moved } }
      | .error f, _ => fail (lit "mv") (lit "cannot stat " ++ quote o ++ lit ": " ++ faultText f) 1 st
      | _, .error f =>
        fail (lit "mv") (lit "cannot move " ++ quote o ++ lit " to " ++ quote goal ++ lit ": " ++ faultText f) 1 st)
      (st.withStatus 0)
  | _ => fail (lit "mv") (lit "missing file operand\nTry 'mv --help' for more information.") 1 st

/-- `cp` of files. -/
def cp : Tool := fun args st =>
  let (_, operands) := options "fpav" (args.drop 1)
  match operands.reverse with
  | goal :: sources@(_ :: _) =>
    sources.reverse.foldl (fun st o =>
      let t := st.machine.tree
      match t.find st.shell.cwd (path o) with
      | .ok (_, .file content mode) =>
        let goal := into st o goal
        let fresh := ((t.find st.shell.cwd (path goal)).toOption).isNone
        match t.write st.shell.cwd (path goal) content with
        | .error f => fail (lit "cp") (lit "cannot create regular file " ++ quote goal ++ lit ": " ++ faultText f) 1 st
        | .ok t =>
          match t.find st.shell.cwd (path goal) with
          | .ok (place, .file content old) =>
            st.onMachine fun m => { m with tree := t.put place (.file content (if fresh then mode else old)) }
          | _ => st
      | .ok _ => fail (lit "cp") (lit "-r not specified; omitting directory " ++ quote o) 1 st
      | .error f => fail (lit "cp") (lit "cannot stat " ++ quote o ++ lit ": " ++ faultText f) 1 st) (st.withStatus 0)
  | _ => fail (lit "cp") (lit "missing file operand\nTry 'cp --help' for more information.") 1 st

/-- `ln`. -/
def ln : Tool := fun args st =>
  let (given, operands) := options "sf" (args.drop 1)
  match operands with
  | [target, name] =>
    let t := st.machine.tree
    let name := into st target name
    match t.locate st.shell.cwd false (path name) with
    | .error f => fail (lit "ln") (lit "failed to create link " ++ quote name ++ lit ": " ++ faultText f) 1 st
    | .ok place =>
      if (t.at? place).isSome ∧ !given.contains 'f' then
        fail (lit "ln") (lit "failed to create symbolic link " ++ quote name ++ lit ": File exists") 1 st
      else if given.contains 's' then
        (st.withStatus 0).onMachine fun m => { m with tree := t.put place (.link (path target)) }
      else
        match t.find st.shell.cwd (path target) with
        | .ok (_, node) => (st.withStatus 0).onMachine fun m => { m with tree := t.put place node }
        | .error f => fail (lit "ln") (lit "failed to access " ++ quote target ++ lit ": " ++ faultText f) 1 st
  | _ => fail (lit "ln") (lit "missing file operand") 1 st

/-- The bits that a mode gives a file: octal digits, or letters with a sign. -/
def newMode (spec : Octets) (old : Nat) : Option Nat :=
  if spec ≠ [] ∧ spec.all Format.isOctal then some (Octets.readBase 8 0 spec).1
  else
    let who := spec.takeWhile ['u', 'g', 'o', 'a'].contains
    match spec.drop who.length with
    | sign :: what =>
      let everybody := who.isEmpty || who.contains 'a'
      let shift (c : Char) (n : Nat) (bits : Nat) : Nat := if everybody || who.contains c then bits * n else 0
      let bits := what.foldl (fun b c => b ||| (match c with
        | 'r' => 4
        | 'w' => 2
        | 'x' => 1
        | _ => 0)) 0
      let mask := shift 'u' 64 bits ||| shift 'g' 8 bits ||| shift 'o' 1 bits
      let all := shift 'u' 64 7 ||| shift 'g' 8 7 ||| shift 'o' 1 7
      match sign with
      | '+' => some (old ||| mask)
      | '-' => some (old &&& (0o7777 ^^^ mask))
      | '=' => some ((old &&& (0o7777 ^^^ all)) ||| mask)
      | _ => none
    | [] => none

/-- `chmod`. -/
def chmod : Tool := fun args st =>
  match args.drop 1 with
  | spec :: files =>
    files.foldl (fun st o =>
      match st.machine.tree.find st.shell.cwd (path o) with
      | .ok (place, .file content mode) =>
        match newMode spec mode with
        | some mode => st.onMachine fun m => { m with tree := m.tree.put place (.file content mode) }
        | none => fail (lit "chmod") (lit "invalid mode: " ++ quote spec) 1 st
      | .ok _ => st
      | .error f => fail (lit "chmod") (lit "cannot access " ++ quote o ++ lit ": " ++ faultText f) 1 st)
      (st.withStatus 0)
  | [] => fail (lit "chmod") (lit "missing operand") 1 st

/-- `ls`, one name a line. -/
def ls : Tool := fun args st =>
  let (given, operands) := options "1aA" (args.drop 1)
  let shows (name : Octets) : Bool := given.contains 'a' || given.contains 'A' || name.head? ≠ some '.'
  let listing (o : Octets) (st : State) : Octets × State :=
    match st.machine.tree.find st.shell.cwd (path o) with
    | .ok (_, .directory) =>
      let names := ((st.machine.tree.names st.shell.cwd (path o)).getD []).map Octets.ofBytes
      let dots := if given.contains 'a' then [['.'], ['.', '.']] else []
      ((dots ++ names.filter shows).flatMap (· ++ ['\n']), st)
    | .ok _ => (o ++ ['\n'], st)
    | .error f => ([], fail (lit "ls") (lit "cannot access " ++ quote o ++ lit ": " ++ faultText f) 2 st)
  match operands with
  | [] =>
    let (out, st) := listing ['.'] (st.withStatus 0)
    emit (lit "ls") out st
  | [o] =>
    let (out, st) := listing o (st.withStatus 0)
    emit (lit "ls") out st
  | many =>
    let isDirectory (o : Octets) : Bool := st.machine.tree.isDirectory st.shell.cwd (path o)
    let listed (st : State) (o : Octets) : State :=
      let (out, st) := listing o st
      let heading := if isDirectory o then o ++ lit ":\n" else []
      emit (lit "ls") (heading ++ out) st
    let sorted := many.mergeSort Octets.le
    (sorted.filter (!isDirectory ·) ++ sorted.filter isDirectory).foldl listed (st.withStatus 0)

/-- `readlink`. -/
def readlink : Tool := fun args st =>
  match (options "n" (args.drop 1)).2 with
  | [o] =>
    match Condition.linkNode? st o with
    | some (.link target) => emit (lit "readlink") (Octets.ofBytes target.bytes ++ ['\n']) (st.withStatus 0)
    | _ => st.withStatus 1
  | _ => fail (lit "readlink") (lit "missing operand") 1 st

/-- `basename`. -/
def basename : Tool := fun args st =>
  match args.drop 1 with
  | [] => fail (lit "basename") (lit "missing operand\nTry 'basename --help' for more information.") 1 st
  | o :: suffix =>
    let name := lastName o
    let ending := suffix.headD []
    let cuts := ending ≠ [] ∧ ending ≠ name ∧ ending.isSuffixOf name
    let name := if cuts then name.take (name.length - ending.length) else name
    emit (lit "basename") (name ++ ['\n']) (st.withStatus 0)

/-- `dirname`. -/
def dirname : Tool := fun args st =>
  match args.drop 1 with
  | [] => fail (lit "dirname") (lit "missing operand\nTry 'dirname --help' for more information.") 1 st
  | operands => emit (lit "dirname") (operands.flatMap fun o => directoryName o ++ ['\n']) (st.withStatus 0)

/-- The path of a place. -/
def placePath (place : Place) : Octets :=
  match place with
  | [] => ['/']
  | names => Octets.ofBytes (names.reverse.flatMap fun name => Path.slash :: name)

/-- `pwd`. -/
def pwd : Tool := fun _ st =>
  emit (lit "pwd") (placePath st.shell.cwd ++ ['\n']) (st.withStatus 0)

/-- `dd`, without its report of speed. -/
def dd : Tool := fun args st =>
  let value (key : String) : Option Octets :=
    (args.find? fun a => (lit key ++ ['=']).isPrefixOf a).map (·.drop (key.length + 1))
  let block := ((value "bs").bind count?).getD 512
  let wanted := ((value "count").bind count?).map (· * block)
  match source (lit "dd") ((value "if").getD ['-']) (st.withStatus 0) with
  | (none, st) => st
  | (some feed, st) =>
    let text := (feed.pieces.map Prod.snd).flatten
    let zero := value "if" = some (lit "/dev/zero")
    let part := match wanted with
      | some n => if zero then List.replicate n '\x00' else text.take n
      | none => text
    let st := if wanted.any (· ≤ text.length) || zero then st else st.waitUntil feed.ends
    let st := match value "of" with
      | none => emit (lit "dd") part st
      | some o =>
        change (lit "dd") (lit "failed to open " ++ quote o)
          (st.machine.tree.write st.shell.cwd (path o) (Octets.toBytes part)) st
    if value "status" = some (lit "none") then st
    else
      let records := Octets.ofNat (part.length / block) ++ ['+'] ++ (if part.length % block = 0 then ['0'] else ['1'])
      st.complainOctets (records ++ lit " records in\n" ++ records ++ lit " records out")

/-! ## Processes -/

/-- The names of the signals, without their common beginning. -/
def signalNumber? (o : Octets) : Option Nat :=
  match Octets.nat? o with
  | some n => some n
  | none =>
    let name := String.ofList (o.map Char.toUpper)
    let name := if name.startsWith "SIG" then name else "SIG" ++ name
    ((WaitStatus.signalNames ++ [(0, "SIGEXIT")]).find? fun (p : Nat × String) => p.2 = name).map Prod.fst

/-- Prints the environment. -/
def printEnvironment (name : Octets) (bindings : List (Octets × Octets)) (st : State) : State :=
  emit name (bindings.flatMap fun (k, v) => k ++ ['='] ++ v ++ ['\n']) st

/-- `printenv`. -/
def printenv : Tool := fun args st =>
  let bindings := State.environment st.shell
  match args.drop 1 with
  | [] => printEnvironment (lit "printenv") bindings (st.withStatus 0)
  | names =>
    names.foldl (fun st name =>
      match bindings.lookup name with
      | some v => emit (lit "printenv") (v ++ ['\n']) st
      | none => st.withStatus 1) (st.withStatus 0)

/-- `expr` over two numbers or texts. -/
def expr : Tool := fun args st =>
  let answer (o : Octets) : State :=
    (emit (lit "expr") (o ++ ['\n']) st).withStatus (if o.isEmpty ∨ o = ['0'] then 1 else 0)
  match args.drop 1 with
  | [a] => answer a
  | [a, op, b] =>
    match String.ofList op, Octets.int? a, Octets.int? b with
    | "+", some x, some y => answer (Octets.ofInt (x + y))
    | "-", some x, some y => answer (Octets.ofInt (x - y))
    | "*", some x, some y => answer (Octets.ofInt (x * y))
    | "/", some x, some y =>
      if y = 0 then fail (lit "expr") (lit "division by zero") 2 st else answer (Octets.ofInt (x.tdiv y))
    | "%", some x, some y =>
      if y = 0 then fail (lit "expr") (lit "division by zero") 2 st else answer (Octets.ofInt (x.tmod y))
    | "=", _, _ => answer (if a = b then ['1'] else ['0'])
    | "!=", _, _ => answer (if a ≠ b then ['1'] else ['0'])
    | "<", some x, some y => answer (if x < y then ['1'] else ['0'])
    | ">", some x, some y => answer (if x > y then ['1'] else ['0'])
    | "<=", some x, some y => answer (if x ≤ y then ['1'] else ['0'])
    | ">=", some x, some y => answer (if x ≥ y then ['1'] else ['0'])
    | _, _, _ => fail (lit "expr") (lit "non-integer argument") 2 st
  | _ => fail (lit "expr") (lit "syntax error") 2 st

/-- `test` and `[`. -/
def condition : Tool := fun args st =>
  let name := args.headD []
  let operands := args.drop 1
  let bracketed := lastName name = ['[']
  if bracketed ∧ operands.getLast? ≠ some [']'] then fail name (lit "missing ']'") 2 st
  else
    let operands := if bracketed then operands.dropLast else operands
    match Condition.holds st (operands.length + 2) operands with
    | .ok b => st.withStatus (if b then 0 else 1)
    | .error message => fail name message 2 st

/-- The programs by their names. -/
def byName : List (String × Tool) :=
  [("echo", echo), ("printf", printf), ("yes", yes), ("seq", seq), ("sleep", sleep), ("cat", cat), ("head", head),
   ("tail", tail), ("wc", wc), ("tr", tr), ("sort", sort), ("uniq", uniq), ("rev", rev), ("tac", tac), ("cut", cut),
   ("tee", tee), ("grep", grep), ("touch", touch), ("mkdir", mkdir), ("rmdir", rmdir), ("rm", rm), ("mv", mv),
   ("cp", cp),
   ("ln", ln), ("chmod", chmod), ("ls", ls), ("readlink", readlink), ("basename", basename), ("dirname", dirname),
   ("pwd", pwd), ("dd", dd), ("printenv", printenv), ("expr", expr), ("test", condition), ("[", condition),
   ("true", fun _ st => st.withStatus 0), ("false", fun _ st => st.withStatus 1)]

end Tool

end QueryGateway.Shell
