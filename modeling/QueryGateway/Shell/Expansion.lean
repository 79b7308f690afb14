import QueryGateway.Shell.Arithmetic
import QueryGateway.Shell.Machine
import QueryGateway.Shell.Pattern

/-!
# Expansion of words

Parameters, command substitutions and arithmetic are replaced by their values; what came from an expansion that is not
quoted is split into fields; and patterns are replaced by the paths that they match.
-/

namespace QueryGateway.Shell

/-- A character of an expanded word, or a mark between characters. -/
inductive Cell where
  /-- A character; whether it is quoted, and whether it came from an expansion that may be split. -/
  | char (c : Char) (quoted split : Bool)
  /-- The boundary between two arguments. -/
  | cut
  /-- A quoted text without characters, which still makes a field. -/
  | empty
deriving DecidableEq, Repr, Inhabited

/-- Runs the text of a command substitution and gives what it printed. -/
abbrev Substitute := Octets → State → Octets × State

namespace Cell

/-- The characters of an expanded word, without its marks. -/
def text (cells : List Cell) : Octets :=
  cells.filterMap fun
    | char c _ _ => some c
    | _ => none

/-- The characters of an expanded word as a pattern. -/
def pattern (cells : List Cell) : List Marked :=
  cells.filterMap fun
    | char c q _ => some (c, q)
    | _ => none

/-- The cells of a value. -/
def ofValue (quoted : Bool) (value : Octets) : List Cell :=
  if value = [] ∧ quoted then [empty] else value.map fun c => char c quoted (!quoted)

/-- The cells of a word inside an expansion that is not quoted: what is not quoted itself may be split. -/
def inExpansion (quoted : Bool) (cells : List Cell) : List Cell :=
  cells.map fun
    | char c q s => char c q (s || (!quoted && !q))
    | cell => cell

end Cell

namespace Expansion

/-- The separators of fields: blanks, unless the script says otherwise. -/
def separators (sh : Session) : Octets :=
  (State.valueOf sh "IFS".toList).getD [' ', '\t', '\n']

/-- The value of a single parameter; nothing when it is not set. -/
def parameter? (sh : Session) (name : Octets) : Option Octets :=
  match name with
  | ['#'] => some (Octets.ofNat sh.arguments.length)
  | ['?'] => some (Octets.ofNat sh.status)
  | ['$'] => some (Octets.ofNat sh.leader)
  | ['!'] => some ((sh.lastJob.map Octets.ofNat).getD [])
  | ['-'] => some ((if sh.stopOnError then ['e'] else []) ++ (if sh.stopOnUnset then ['u'] else []))
  | ['@'] | ['*'] =>
    if sh.arguments.isEmpty then none else some ((sh.arguments.intersperse [' ']).flatten)
  | _ =>
    match Octets.nat? name with
    | some 0 => some sh.name
    | some (n + 1) => sh.arguments[n]?
    | none => State.valueOf sh name

/-- The cells of all arguments. Between quotes the at sign keeps them apart and the star joins them. -/
def allArguments (sh : Session) (name : Char) (quoted : Bool) : List Cell :=
  if quoted ∧ name = '*' then
    let joint := (separators sh).take 1
    Cell.ofValue true ((sh.arguments.intersperse joint).flatten)
  else ((sh.arguments.map (Cell.ofValue quoted)).intersperse [Cell.cut]).flatten

/-- Ends the shell because a word cannot be expanded. -/
def fail (st : State) (message : Octets) : List Cell × State :=
  ([], (st.complainShell message).exitWith 2)

/-- The text without the newlines at its end. -/
def dropNewlines (o : Octets) : Octets :=
  (o.reverse.dropWhile (· = '\n')).reverse

/-- The value of an arithmetic expression. -/
def arithmetic (st : State) (quoted : Bool) (expression : Octets) : List Cell × State :=
  let values (name : Octets) : Int := ((State.valueOf st.shell name).bind Octets.int?).getD 0
  match Arithmetic.run values expression with
  | .error words =>
    fail st (("arithmetic expression: " ++ words ++ ": \"").toList ++ expression ++ ['"'])
  | .ok (value, set) =>
    let st := st.onShell fun sh => set.foldl (fun sh (name, v) => State.assign name (Octets.ofInt v) sh) sh
    (Cell.ofValue quoted (Octets.ofInt value), st)

mutual

/-- Expands one part of a word. -/
def piece (substitute : Substitute) (st : State) : Piece → List Cell × State
  | .text s quoted => (if s = [] ∧ quoted then [.empty] else s.map fun c => .char c quoted false, st)
  | .broken => fail st "Bad substitution".toList
  | .command source quoted =>
    let (out, st) := substitute source st
    (Cell.ofValue quoted (dropNewlines out), st)
  | .arithmetic expression quoted =>
    let (cells, st) := pieces substitute st expression
    if st.goes then arithmetic st quoted (Cell.text cells) else ([], st)
  | .parameter name modifier argument quoted =>
    let value := parameter? st.shell name
    let all := name = ['@'] ∨ name = ['*']
    let shown (st : State) : List Cell :=
      if all then allArguments st.shell (name.headD '@') quoted else Cell.ofValue quoted (value.getD [])
    let unset :=
      if st.shell.stopOnUnset ∧ value.isNone ∧ !all then some (name ++ ": parameter not set".toList) else none
    match modifier with
    | .plain =>
      match unset with
      | some message => fail st message
      | none => (shown st, st)
    | .length =>
      match unset with
      | some message => fail st message
      | none => (Cell.ofValue quoted (Octets.ofNat (value.getD []).length), st)
    | .trim front longest =>
      match unset with
      | some message => fail st message
      | none =>
        let (cells, st) := pieces substitute st argument
        (Cell.ofValue quoted (Pattern.trim front longest (Cell.pattern cells) (value.getD [])), st)
    | .test op colon =>
      let given := value.any fun v => !colon || v ≠ []
      if op = '+' then
        if given then
          let (cells, st) := pieces substitute st argument
          (Cell.inExpansion quoted cells, st)
        else (if quoted then [.empty] else [], st)
      else if given then (shown st, st)
      else
        let (cells, st) := pieces substitute st argument
        if op = '-' then (Cell.inExpansion quoted cells, st)
        else if op = '=' then
          let text := Cell.text cells
          (Cell.ofValue quoted text, st.onShell (State.assign name text))
        else
          let message := if argument.isEmpty then "parameter not set".toList else Cell.text cells
          fail st (name ++ [':', ' '] ++ message)

/-- Expands the parts of a word, from the left. -/
def pieces (substitute : Substitute) (st : State) : List Piece → List Cell × State
  | [] => ([], st)
  | p :: rest =>
    let (cells, st) := piece substitute st p
    if st.goes then
      let (more, st) := pieces substitute st rest
      (cells ++ more, st)
    else ([], st)

end

/-- A tilde at the front of a word, alone or before a slash, stands for the home directory. -/
def tilde (sh : Session) (w : Word) : Word :=
  match w with
  | .text ('~' :: rest) false :: others =>
    match rest.head?, State.valueOf sh "HOME".toList with
    | none, some home => if others.isEmpty then [.text home true] else w
    | some '/', some home => .text home true :: .text rest false :: others
    | _, _ => w
  | _ => w

/-- Expands a word. -/
def word (substitute : Substitute) (st : State) (w : Word) : List Cell × State :=
  pieces substitute st (tilde st.shell w)

/-- The text of a word that is neither split nor matched. -/
def single (substitute : Substitute) (st : State) (w : Word) : Octets × State :=
  let (cells, st) := word substitute st w
  (Cell.text cells, st)

/-! ## Fields -/

/-- Fields being made: those that are finished (newest first), the one begun, and whether the last one was ended by a
blank. -/
structure Splitting where
  done : List (List Marked) := []
  current : Option (List Marked) := none
  blank : Bool := false

namespace Splitting

/-- Ends the field that is begun. -/
def close (s : Splitting) (blank : Bool) : Splitting :=
  match s.current with
  | some field => { done := field.reverse :: s.done, current := none, blank := blank }
  | none => { s with blank := s.blank && blank }

/-- One cell. A separator that is no blank ends a field even when nothing is in it. -/
def step (ifs : Octets) (s : Splitting) : Cell → Splitting
  | .cut => s.close false
  | .empty => { s with current := some (s.current.getD []) }
  | .char c quoted split =>
    if split ∧ ifs.contains c then
      if [' ', '\t', '\n'].contains c then s.close true
      else if s.current.isNone ∧ !s.blank then { s with done := [] :: s.done }
      else s.close false
    else { s with current := some ((c, quoted) :: s.current.getD []), blank := false }

end Splitting

/-- The fields of an expanded word. -/
def fields (ifs : Octets) (cells : List Cell) : List (List Marked) :=
  ((cells.foldl (Splitting.step ifs) {}).close false).done.reverse

/-- The texts that a field stands for: the paths it matches, or itself. -/
def texts (st : State) (field : List Marked) : List Octets :=
  let itself := field.map Prod.fst
  if st.shell.noGlob ∨ !Pattern.isPattern field then [itself]
  else
    match Pattern.paths st.machine.tree st.shell.cwd field with
    | [] => [itself]
    | found => found

/-- The words that a list of words stands for. -/
def words (substitute : Substitute) : State → List Word → List Octets × State
  | st, [] => ([], st)
  | st, w :: rest =>
    let (cells, st) := word substitute st w
    if st.goes then
      let here := (fields (separators st.shell) cells).flatMap (texts st)
      let (more, st) := words substitute st rest
      (here ++ more, st)
    else ([], st)

end Expansion

end QueryGateway.Shell
