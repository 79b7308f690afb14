import QueryGateway.Shell.Token

/-!
# The grammar of scripts

Commands are read from tokens one complete line at a time, so that what stands before a mistake has been run when the
mistake is met.
-/

namespace QueryGateway.Shell

/-- A script that breaks the grammar: the line and the words for it. -/
structure Mistake where
  line : Nat
  message : String
deriving Repr, Inhabited

/-- What is left of a script's tokens. -/
abbrev Tokens := List Located

namespace Grammar

/-- The words that shape commands where a command may begin. -/
def reserved : List String :=
  ["if", "then", "else", "elif", "fi", "do", "done", "case", "esac", "while", "until", "for", "\x7b", "\x7d", "!", "in"]

/-- The word that a token is, if it is one without quotes or expansions. -/
def plainWord? : Token → Option String
  | .word _ (some s) => some (String.ofList s)
  | _ => none

/-- Whether the next token is a given plain word. -/
def atWord (w : String) (ts : Tokens) : Bool :=
  match ts with
  | t :: _ => plainWord? t.token = some w
  | [] => false

/-- Whether the next token is a given operator. -/
def atOperator (op : String) (ts : Tokens) : Bool :=
  match ts with
  | ⟨.operator o, _⟩ :: _ => String.ofList o = op
  | _ => false

/-- How a token is named in a message. -/
def describe : Token → String
  | .word _ (some s) =>
    let s := String.ofList s
    if reserved.contains s then "\"" ++ s ++ "\"" else "word"
  | .word _ none => "word"
  | .operator o => "\"" ++ String.ofList o ++ "\""
  | .newline => "newline"
  | .redirection _ _ => "redirection"
  | .here _ _ => "redirection"
  | .bad message => message

/-- The mistake of the next token, where something else was expected. -/
def unexpected (lastLine : Nat) (expecting : Option String) (ts : Tokens) : Mistake :=
  let wanted := match expecting with
    | none => ""
    | some w => " (expecting \"" ++ w ++ "\")"
  match ts with
  | [] => ⟨lastLine, "end of file unexpected" ++ wanted⟩
  | ⟨.bad message, line⟩ :: _ => ⟨line, message⟩
  | t :: _ => ⟨t.line, describe t.token ++ " unexpected" ++ wanted⟩

/-- A reader of tokens. -/
abbrev Reads (α : Type) := Except Mistake (α × Tokens)

/-- The tokens without line ends in front. -/
def skipLines (ts : Tokens) : Tokens :=
  ts.dropWhile fun t => t.token matches .newline

/-- Takes a given plain word, line ends before it allowed. -/
def expectWord (last : Nat) (w : String) (ts : Tokens) : Except Mistake Tokens :=
  let ts := skipLines ts
  if atWord w ts then .ok (ts.drop 1) else .error (unexpected last (some w) ts)

/-- Takes a given operator. -/
def expectOperator (last : Nat) (op : String) (ts : Tokens) : Except Mistake Tokens :=
  if atOperator op ts then .ok (ts.drop 1) else .error (unexpected last (some op) ts)

/-- Redirections, as far as they go. -/
def redirections (last : Nat) (bodies : List Word) : Nat → List Redirection → Tokens →
    Except Mistake (List Redirection × Tokens)
  | 0, acc, ts => .ok (acc.reverse, ts)
  | fuel + 1, acc, ts =>
    match ts with
    | ⟨.redirection d direction, _⟩ :: ⟨.word target _, _⟩ :: rest =>
      redirections last bodies fuel (⟨d, direction, target⟩ :: acc) rest
    | ⟨.redirection _ _, _⟩ :: rest => .error (unexpected last none rest)
    | ⟨.here d n, _⟩ :: rest => redirections last bodies fuel (⟨d, .here, bodies.getD n []⟩ :: acc) rest
    | ts => .ok (acc.reverse, ts)

/-- An assignment, if a word is one: a name and what is assigned. -/
def assignment? (parts : Word) : Option (Octets × Word) :=
  match parts with
  | .text s false :: rest =>
    let name := s.takeWhile (· ≠ '=')
    match s.dropWhile (· ≠ '=') with
    | _ :: value => if isName name then some (name, .text value false :: rest) else none
    | [] => none
  | _ => none

/-- The parts of a simple command. -/
def simple (last : Nat) (bodies : List Word) (line : Nat) : Nat → List (Octets × Word) → List Word →
    List Redirection → Tokens → Except Mistake (Command × Tokens)
  | 0, as, ws, rs, ts => .ok (.simple line as.reverse ws.reverse rs, ts)
  | fuel + 1, as, ws, rs, ts =>
    match ts with
    | ⟨.word parts _, _⟩ :: rest =>
      match ws, assignment? parts with
      | [], some a => simple last bodies line fuel (a :: as) ws rs rest
      | _, _ => simple last bodies line fuel as (parts :: ws) rs rest
    | ⟨.redirection _ _, _⟩ :: _ | ⟨.here _ _, _⟩ :: _ =>
      match redirections last bodies fuel [] ts with
      | .error m => .error m
      | .ok (more, rest) => simple last bodies line fuel as ws (rs ++ more) rest
    | ts =>
      if as.isEmpty && ws.isEmpty && rs.isEmpty then .error (unexpected last none ts)
      else .ok (.simple line as.reverse ws.reverse rs, ts)

/-- The patterns of an arm, up to its parenthesis. -/
def patterns (last : Nat) : Nat → List Word → Tokens → Except Mistake (List Word × Tokens)
  | 0, _, ts => .error (unexpected last none ts)
  | fuel + 1, acc, ts =>
    match ts with
    | ⟨.word parts _, _⟩ :: rest =>
      if atOperator "|" rest then patterns last fuel (parts :: acc) (rest.drop 1)
      else if atOperator ")" rest then .ok ((parts :: acc).reverse, rest.drop 1)
      else .error (unexpected last (some ")") rest)
    | ts => .error (unexpected last none ts)

/-- The words of a `for`, up to the end of their line. -/
def eachWords : Tokens → List Word → List Word × Tokens
  | ⟨.word parts _, _⟩ :: rest, acc => eachWords rest (parts :: acc)
  | ts, acc => (acc.reverse, ts)

/-- Whether the next token ends a list of commands inside another command. -/
def atEnd (ts : Tokens) : Bool :=
  match ts with
  | [] => true
  | t :: _ =>
    atOperator ")" ts || atOperator ";;" ts ||
      (plainWord? t.token).any ["then", "else", "elif", "fi", "do", "done", "esac", "\x7d"].contains

mutual

/-- A list of commands inside another command, which goes on with `closer`; line ends separate them too. -/
def list (last : Nat) (bodies : List Word) (closer : String) : Nat → Tokens → Except Mistake (Command × Tokens)
  | 0, ts => .error (unexpected last none ts)
  | fuel + 1, ts =>
    let ts := skipLines ts
    let first := if ts.isEmpty then .error (unexpected last (some closer) []) else andOr last bodies fuel ts
    match first with
    | .error m => .error m
    | .ok (c, rest) =>
      let (c, rest, more) :=
        if atOperator "&" rest then (Command.background c, skipLines (rest.drop 1), true)
        else if atOperator ";" rest then (c, skipLines (rest.drop 1), true)
        else
          match rest with
          | ⟨.newline, _⟩ :: _ => (c, skipLines rest, true)
          | _ => (c, rest, false)
      if more && !atEnd rest then
        match list last bodies closer fuel rest with
        | .error m => .error m
        | .ok (d, rest) => .ok (.sequence c d, rest)
      else .ok (c, rest)

/-- Commands joined by `&&` and `||`, which bind alike and to the left. -/
def andOr (last : Nat) (bodies : List Word) : Nat → Tokens → Except Mistake (Command × Tokens)
  | 0, ts => .error (unexpected last none ts)
  | fuel + 1, ts =>
    match pipeline last bodies fuel ts with
    | .error m => .error m
    | .ok (c, rest) => joined last bodies fuel c rest

/-- What follows the first command of a chain. -/
def joined (last : Nat) (bodies : List Word) : Nat → Command → Tokens → Except Mistake (Command × Tokens)
  | 0, c, ts => .ok (c, ts)
  | fuel + 1, c, ts =>
    let next (join : Command → Command → Command) : Except Mistake (Command × Tokens) :=
      match pipeline last bodies fuel (skipLines (ts.drop 1)) with
      | .error m => .error m
      | .ok (d, rest) => joined last bodies fuel (join c d) rest
    if atOperator "&&" ts then next .both
    else if atOperator "||" ts then next .either
    else .ok (c, ts)

/-- Commands joined by `|`, perhaps negated. -/
def pipeline (last : Nat) (bodies : List Word) : Nat → Tokens → Except Mistake (Command × Tokens)
  | 0, ts => .error (unexpected last none ts)
  | fuel + 1, ts =>
    if atWord "!" ts then
      match pipeline last bodies fuel (ts.drop 1) with
      | .error m => .error m
      | .ok (c, rest) => .ok (.negated c, rest)
    else
      match command last bodies fuel ts with
      | .error m => .error m
      | .ok (c, rest) =>
        match stages last bodies fuel [c] rest with
        | .error m => .error m
        | .ok ([only], rest) => .ok (only, rest)
        | .ok (all, rest) => .ok (.pipeline all, rest)

/-- The further stages of a pipeline. -/
def stages (last : Nat) (bodies : List Word) : Nat → List Command → Tokens →
    Except Mistake (List Command × Tokens)
  | 0, acc, ts => .ok (acc.reverse, ts)
  | fuel + 1, acc, ts =>
    if atOperator "|" ts then
      match command last bodies fuel (skipLines (ts.drop 1)) with
      | .error m => .error m
      | .ok (c, rest) => stages last bodies fuel (c :: acc) rest
    else .ok (acc.reverse, ts)

/-- One command. -/
def command (last : Nat) (bodies : List Word) : Nat → Tokens → Except Mistake (Command × Tokens)
  | 0, ts => .error (unexpected last none ts)
  | fuel + 1, ts =>
    let around (outcome : Except Mistake (Command × Tokens)) : Except Mistake (Command × Tokens) :=
      match outcome with
      | .error m => .error m
      | .ok (c, rest) =>
        match redirections last bodies fuel [] rest with
        | .error m => .error m
        | .ok ([], rest) => .ok (c, rest)
        | .ok (rs, rest) => .ok (.redirected c rs, rest)
    match ts with
    | ⟨.operator ['('], _⟩ :: rest => around (do
        let (body, rest) ← list last bodies ")" fuel rest
        let rest ← expectOperator last ")" (skipLines rest)
        .ok (.subshell body, rest))
    | ⟨.word _ (some name), line⟩ :: rest =>
      match String.ofList name with
      | "if" => around (conditional last bodies fuel rest)
      | "while" => around (repeating last bodies fuel false rest)
      | "until" => around (repeating last bodies fuel true rest)
      | "for" => around (counting last bodies fuel rest)
      | "case" => around (do
          match rest with
          | ⟨.word subject _, _⟩ :: rest =>
            let rest ← expectWord last "in" rest
            let (arms, rest) ← caseArms last bodies fuel [] rest
            .ok (.choice subject arms, rest)
          | [] => .error ⟨last, "end of file unexpected (expecting word)"⟩
          | rest => .error (unexpected last none rest))
      | "\x7b" => around (do
          let (body, rest) ← list last bodies "\x7d" fuel rest
          let rest ← expectWord last "\x7d" rest
          .ok (body, rest))
      | word =>
        if reserved.contains word then .error (unexpected last none ts)
        else if atOperator "(" rest then do
          let rest ← expectOperator last ")" (rest.drop 1)
          if !isName name then .error ⟨line, "Bad function name"⟩
          else
            let (body, rest) ← command last bodies fuel (skipLines rest)
            .ok (.function name body, rest)
        else simple last bodies line (rest.length + 2) [] [] [] ts
    | t :: rest => simple last bodies t.line (rest.length + 2) [] [] [] ts
    | [] => .error (unexpected last none [])

/-- An `if`, behind its first word. -/
def conditional (last : Nat) (bodies : List Word) : Nat → Tokens → Except Mistake (Command × Tokens)
  | 0, ts => .error (unexpected last none ts)
  | fuel + 1, ts => do
    let (condition, ts) ← list last bodies "then" fuel ts
    let ts ← expectWord last "then" ts
    let (yes, ts) ← list last bodies "fi" fuel ts
    let ts := skipLines ts
    if atWord "elif" ts then
      let (no, ts) ← conditional last bodies fuel (ts.drop 1)
      .ok (.branch condition yes no, ts)
    else if atWord "else" ts then
      let (no, ts) ← list last bodies "fi" fuel (ts.drop 1)
      let ts ← expectWord last "fi" ts
      .ok (.branch condition yes no, ts)
    else
      let ts ← expectWord last "fi" ts
      .ok (.branch condition yes .nothing, ts)

/-- A `while` or an `until`, behind its first word. -/
def repeating (last : Nat) (bodies : List Word) : Nat → Bool → Tokens → Except Mistake (Command × Tokens)
  | 0, _, ts => .error (unexpected last none ts)
  | fuel + 1, stopOn, ts => do
    let (condition, ts) ← list last bodies "do" fuel ts
    let ts ← expectWord last "do" ts
    let (body, ts) ← list last bodies "done" fuel ts
    let ts ← expectWord last "done" ts
    .ok (.loop stopOn condition body, ts)

/-- A `for`, behind its first word. -/
def counting (last : Nat) (bodies : List Word) : Nat → Tokens → Except Mistake (Command × Tokens)
  | 0, ts => .error (unexpected last none ts)
  | fuel + 1, ts => do
    match ts with
    | ⟨.word _ (some name), line⟩ :: rest =>
      if !isName name then .error ⟨line, "Bad for loop variable"⟩
      else
        let after := skipLines rest
        let (words, rest) :=
          if atWord "in" after then
            let (words, rest) := eachWords (after.drop 1) []
            (some words, rest)
          else (none, rest)
        if rest.isEmpty then .error ⟨last, "end of file unexpected"⟩
        let rest := if atOperator ";" rest then rest.drop 1 else rest
        let rest ← expectWord last "do" rest
        let (body, rest) ← list last bodies "done" fuel rest
        let rest ← expectWord last "done" rest
        .ok (.each name words body, rest)
    | ⟨.bad message, line⟩ :: _ => .error ⟨line, message⟩
    | t :: _ => .error ⟨t.line, "Bad for loop variable"⟩
    | [] => .error ⟨last, "Bad for loop variable"⟩

/-- The arms of a `case`, up to and with its last word. -/
def caseArms (last : Nat) (bodies : List Word) : Nat → List (List Word × Command) → Tokens →
    Except Mistake (List (List Word × Command) × Tokens)
  | 0, _, ts => .error (unexpected last none ts)
  | fuel + 1, acc, ts => do
    let ts := skipLines ts
    if atWord "esac" ts then .ok (acc.reverse, ts.drop 1)
    else if ts.isEmpty then .error (unexpected last (some ")") [])
    else
      let ts := if atOperator "(" ts then ts.drop 1 else ts
      let (alternatives, ts) ← patterns last (ts.length + 1) [] ts
      let inner := skipLines ts
      let (body, ts) ←
        if atOperator ";;" inner || atWord "esac" inner then .ok (Command.nothing, inner)
        else list last bodies ";;" fuel inner
      let ts := skipLines ts
      if atOperator ";;" ts then caseArms last bodies fuel ((alternatives, body) :: acc) (ts.drop 1)
      else
        if ts.isEmpty then .error (unexpected last (some ";;") [])
        let ts ← expectWord last "esac" ts
        .ok (((alternatives, body) :: acc).reverse, ts)

end

/-- The chains of one line, up to and with its end. -/
def chains (last : Nat) (bodies : List Word) : Nat → Tokens → Except Mistake (Command × Tokens)
  | 0, ts => .error (unexpected last none ts)
  | fuel + 1, ts => do
    let (c, rest) ← andOr last bodies fuel ts
    let separated := atOperator ";" rest || atOperator "&" rest
    let c := if atOperator "&" rest then Command.background c else c
    let rest := if separated then rest.drop 1 else rest
    match rest with
    | [] => .ok (c, [])
    | ⟨.newline, _⟩ :: after => .ok (c, after)
    | rest =>
      if separated then
        let (d, rest) ← chains last bodies fuel rest
        .ok (.sequence c d, rest)
      else .error (unexpected last none rest)

/-- The next complete line of a script: nothing when only line ends are left. `last` is the line on which the script
ends. -/
def line (last : Nat) (bodies : List Word) (ts : Tokens) : Except Mistake (Option Command × Tokens) :=
  match skipLines ts with
  | [] => .ok (none, [])
  | ts =>
    match chains last bodies (8 * ts.length + 20) ts with
    | .error m => .error m
    | .ok (c, rest) => .ok (some c, rest)

end Grammar

end QueryGateway.Shell
