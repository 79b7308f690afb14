import QueryGateway.Shell.Command

/-!
# Tokens of a script

A script is cut into words, operators and line ends. Quotes and expansions are read while a word is; the bodies of
here-documents are taken from the lines behind the one that asks for them. A script that cannot be cut further ends in
a token that says so, because the lines before it are still run.
-/

namespace QueryGateway.Shell

/-- A token. -/
inductive Token where
  /-- A word; `plain` is its text when nothing in it is quoted or expanded. -/
  | word (parts : Word) (plain : Option Octets)
  | operator (octets : Octets)
  | newline
  | redirection (descriptor : Nat) (direction : Direction)
  /-- A here-document, by its number. -/
  | here (descriptor number : Nat)
  | bad (message : String)
deriving Inhabited

/-- A token and the line it stands on. -/
structure Located where
  token : Token
  line : Nat
deriving Inhabited

/-! ## Words -/

/-- Where a word is read: in the open, between double quotes, behind the operator of a parameter expansion, or in the
body of a here-document. -/
inductive Mode where
  | bare
  | double
  | brace (quoted : Bool)
  | body
deriving DecidableEq, Repr

namespace Mode

/-- Whether what is read counts as quoted. -/
def quoted : Mode → Bool
  | bare => false
  | double => true
  | brace q => q
  | body => true

/-- Whether a character separates words. -/
def separates (c : Char) : Bool :=
  [' ', '\t', '\n', '|', '&', ';', '<', '>', '(', ')'].contains c

/-- Whether a character ends a word. -/
def ends (m : Mode) (c : Char) : Bool :=
  match m with
  | bare => separates c
  | double => c = '"'
  | brace _ => c = '\x7d'
  | body => false

/-- Whether a backslash takes away the meaning of a character. -/
def escapes (m : Mode) (c : Char) : Bool :=
  match m with
  | bare => true
  | brace false => true
  | double => ['$', '\x60', '\\', '"', '\n'].contains c
  | brace true => ['$', '\x60', '\\', '"', '\n', '\x7d'].contains c
  | body => ['$', '\x60', '\\', '\n'].contains c

end Mode

/-- Joins neighbouring pieces of text that are quoted alike. -/
def mergeText : List Piece → List Piece
  | [] => []
  | .text s q :: rest =>
    match mergeText rest with
    | .text t r :: others => if q = r then .text (s ++ t) q :: others else .text s q :: .text t r :: others
    | others => .text s q :: others
  | piece :: rest => piece :: mergeText rest

/-- What stands up to the parenthesis that closes the innermost open one. `stack` holds the open parentheses and double
quotes, innermost first. -/
def balanced : List Char → Octets → Octets → Option (Octets × Octets)
  | _, _, [] => none
  | [], _, _ => none
  | '"' :: outer, acc, '\\' :: c :: rest => balanced ('"' :: outer) (c :: '\\' :: acc) rest
  | '"' :: outer, acc, '$' :: '(' :: rest => balanced ('(' :: '"' :: outer) ('(' :: '$' :: acc) rest
  | '"' :: outer, acc, c :: rest =>
    if c = '"' then balanced outer ('"' :: acc) rest else balanced ('"' :: outer) (c :: acc) rest
  | '\'' :: outer, acc, c :: rest =>
    if c = '\'' then balanced outer (c :: acc) rest else balanced ('\'' :: outer) (c :: acc) rest
  | '(' :: outer, acc, '\\' :: c :: rest => balanced ('(' :: outer) (c :: '\\' :: acc) rest
  | stack, acc, c :: rest =>
    if c = ')' then
      match stack.tail with
      | [] => some (acc.reverse, rest)
      | outer => balanced outer (c :: acc) rest
    else if c = '(' ∨ c = '"' ∨ c = '\'' then balanced (c :: stack) (c :: acc) rest
    else balanced stack (c :: acc) rest

/-- What stands up to a back quote, with the backslashes before back quotes, backslashes and dollars taken away. -/
def backquoted : Octets → Octets → Option (Octets × Octets)
  | _, [] => none
  | acc, '\\' :: c :: rest =>
    if c = '\x60' ∨ c = '\\' ∨ c = '$' then backquoted (c :: acc) rest else backquoted (c :: '\\' :: acc) rest
  | acc, c :: rest => if c = '\x60' then some (acc.reverse, rest) else backquoted (c :: acc) rest

/-- The name of a parameter at the front of a text: a name, a number, or one of the special characters. -/
def parameterName (many : Bool) (o : Octets) : Octets × Octets :=
  match o with
  | [] => ([], [])
  | c :: rest =>
    if isNameStart c then (o.takeWhile isNameChar, o.dropWhile isNameChar)
    else if c.isDigit then
      if many then (o.takeWhile Char.isDigit, o.dropWhile Char.isDigit) else ([c], rest)
    else if ['@', '*', '#', '?', '-', '$', '!'].contains c then ([c], rest)
    else ([], o)

/-- The modifier behind the name of a parameter, if one is there. -/
def modifier? : Octets → Option (Modifier × Octets)
  | ':' :: c :: rest => if ['-', '=', '?', '+'].contains c then some (.test c true, rest) else none
  | '%' :: '%' :: rest => some (.trim false true, rest)
  | '%' :: rest => some (.trim false false, rest)
  | '#' :: '#' :: rest => some (.trim true true, rest)
  | '#' :: rest => some (.trim true false, rest)
  | c :: rest => if ['-', '=', '?', '+'].contains c then some (.test c false, rest) else none
  | [] => none

/-- The message for a quote that is never closed. -/
def unterminated : String := "Unterminated quoted string"

/-- The message for an expansion that is never closed. -/
def missingBrace : String := "Missing '\x7d'"

mutual

/-- Reads the parts of a word; what ends it stays in the rest. -/
def scan : Nat → Mode → List Piece → Octets → Except String (Word × Octets)
  | 0, _, _, _ => .error unterminated
  | _ + 1, mode, acc, [] =>
    match mode with
    | .bare => .ok (mergeText acc.reverse, [])
    | .body => .ok (mergeText acc.reverse, [])
    | .double => .error unterminated
    | .brace _ => .error missingBrace
  | fuel + 1, mode, acc, c :: rest =>
    if mode.ends c then .ok (mergeText acc.reverse, c :: rest)
    else if c = '\\' then
      match rest with
      | '\n' :: after => scan fuel mode acc after
      | d :: after =>
        if mode.escapes d then scan fuel mode (.text [d] true :: acc) after
        else scan fuel mode (.text [c] mode.quoted :: acc) rest
      | [] => scan fuel mode (.text [c] mode.quoted :: acc) rest
    else if c = '\'' ∧ !mode.quoted then
      match rest.dropWhile (· ≠ '\'') with
      | _ :: after => scan fuel mode (.text (rest.takeWhile (· ≠ '\'')) true :: acc) after
      | [] => .error unterminated
    else if c = '"' ∧ mode ≠ .body then
      match scan fuel .double [] rest with
      | .error m => .error m
      | .ok (parts, after) => scan fuel mode (parts.reverse ++ .text [] true :: acc) (after.drop 1)
    else if c = '$' then
      match dollar fuel mode.quoted rest with
      | .error m => .error m
      | .ok (piece, after) => scan fuel mode (piece :: acc) after
    else if c = '\x60' then
      match backquoted [] rest with
      | none => .error "EOF in backquote substitution"
      | some (source, after) => scan fuel mode (.command source mode.quoted :: acc) after
    else scan fuel mode (.text [c] mode.quoted :: acc) rest

/-- Reads the expansion behind a dollar; a dollar before anything else stands for itself. -/
def dollar : Nat → Bool → Octets → Except String (Piece × Octets)
  | 0, _, _ => .error unterminated
  | fuel + 1, quoted, '(' :: rest =>
    match balanced ['('] [] rest with
    | none => .error (if rest.head? = some '(' then "Missing '))'" else "end of file unexpected (expecting \")\")")
    | some (source, after) =>
      match source, source.getLast? with
      | '(' :: inner, some ')' =>
        match scan fuel .body [] inner.dropLast with
        | .error m => .error m
        | .ok (expression, _) => .ok (.arithmetic expression quoted, after)
      | _, _ => .ok (.command source quoted, after)
  | fuel + 1, quoted, '\x7b' :: rest =>
    match rest with
    | '#' :: '\x7d' :: after => .ok (.parameter ['#'] .plain [] quoted, after)
    | _ =>
      let named (c : Char) : Bool := isNameChar c || ['@', '*', '?', '$', '!'].contains c
      let length := rest.head? = some '#' && rest[1]?.any named
      let (name, after) := parameterName true (if length then rest.drop 1 else rest)
      match after with
      | '\x7d' :: after =>
        if name = [] then .ok (.broken, after)
        else .ok (.parameter name (if length then .length else .plain) [] quoted, after)
      | _ =>
        match modifier? after with
        | none =>
          match after.dropWhile (· ≠ '\x7d') with
          | _ :: after => .ok (.broken, after)
          | [] => .error missingBrace
        | some (modifier, after) =>
          match scan fuel (.brace quoted) [] after with
          | .error m => .error m
          | .ok (argument, after) =>
            if name = [] then .ok (.broken, after.drop 1)
            else .ok (.parameter name modifier argument quoted, after.drop 1)
  | _ + 1, quoted, rest =>
    match parameterName false rest with
    | ([], _) => .ok (.text ['$'] quoted, rest)
    | (name, after) => .ok (.parameter name .plain [] quoted, after)

end

/-- The text of a word that is neither quoted nor expanded. -/
def plain? : Word → Option Octets
  | [.text s false] => some s
  | _ => none

/-! ## Here-documents -/

/-- A here-document that a line asks for: the text of its last line, whether its body is taken literally, and whether
tabs in front of lines are dropped. -/
structure Asked where
  delimiter : Octets
  literal : Bool
  tabs : Bool

/-- What a piece of a delimiter stands for. -/
def pieceText : Piece → Octets
  | .text s _ => s
  | _ => []

/-- Whether a piece is quoted. -/
def pieceQuoted : Piece → Bool
  | .text _ q => q
  | _ => false

/-- The here-document that a delimiter asks for. -/
def Asked.ofWord (tabs : Bool) (w : Word) : Asked :=
  { delimiter := w.flatMap pieceText, literal := w.any pieceQuoted, tabs := tabs }

/-- The body of a here-document: the lines up to its delimiter. -/
def bodyLines (asked : Asked) : List Octets → Octets → Octets × List Octets
  | [], acc => (acc, [])
  | line :: rest, acc =>
    let line := if asked.tabs then line.dropWhile (· = '\t') else line
    if line.filter (· ≠ '\n') = asked.delimiter then (acc, rest) else bodyLines asked rest (acc ++ line)

/-- Takes the bodies of the here-documents asked for, in order. -/
def takeBodies : List Asked → List Octets → List Word → List Word × List Octets
  | [], lines, done => (done, lines)
  | asked :: more, lines, done =>
    let (text, lines) := bodyLines asked lines []
    let body : Word :=
      if asked.literal then [.text text true]
      else
        match scan (text.length + 1) .body [] text with
        | .ok (parts, _) => parts
        | .error _ => [.text text true]
    takeBodies more lines (done ++ [body])

/-! ## The cut -/

/-- A script being cut: the tokens so far (newest first), the bodies of here-documents, and those still to be taken. -/
structure Cutting where
  tokens : List Located := []
  bodies : List Word := []
  asked : List Asked := []

/-- The operator at the front of a text. -/
def operator? : Octets → Option (Octets × Octets)
  | '&' :: '&' :: rest => some (['&', '&'], rest)
  | '|' :: '|' :: rest => some (['|', '|'], rest)
  | ';' :: ';' :: rest => some ([';', ';'], rest)
  | c :: rest => if ['&', '|', ';', '(', ')'].contains c then some ([c], rest) else none
  | [] => none

/-- The redirection operator at the front of a text, with the descriptor it is for unless one is named. -/
def direction? : Octets → Option (Direction × Nat × Octets)
  | '<' :: '&' :: rest => some (.copy, 0, rest)
  | '<' :: '>' :: rest => some (.both, 0, rest)
  | '<' :: rest => some (.read, 0, rest)
  | '>' :: '>' :: rest => some (.append, 1, rest)
  | '>' :: '&' :: rest => some (.copy, 1, rest)
  | '>' :: '|' :: rest => some (.write, 1, rest)
  | '>' :: rest => some (.write, 1, rest)
  | _ => none

/-- How many lines end between a text and what is left of it. -/
def newlinesBetween (text rest : Octets) : Nat :=
  (text.take (text.length - rest.length)).count '\n'

/-- Cuts a script into tokens. -/
def cut : Nat → Nat → Cutting → Octets → Cutting
  | 0, _, st, _ => st
  | _ + 1, _, st, [] => st
  | fuel + 1, line, st, c :: rest =>
    let emit (token : Token) : Cutting := { st with tokens := ⟨token, line⟩ :: st.tokens }
    let bad (message : String) : Cutting := emit (.bad message)
    if c = ' ' ∨ c = '\t' then cut fuel line st rest
    else if c = '\\' ∧ rest.head? = some '\n' then cut fuel (line + 1) st (rest.drop 1)
    else if c = '#' then cut fuel line st (rest.dropWhile (· ≠ '\n'))
    else if c = '\n' then
      let st := emit .newline
      let (bodies, lines) := takeBodies st.asked (Octets.lines rest) st.bodies
      let after := lines.flatten
      let line := line + 1 + newlinesBetween rest after
      cut fuel line { st with bodies := bodies, asked := [] } (if st.asked.isEmpty then rest else after)
    else
      let digits := (c :: rest).takeWhile Char.isDigit
      let behind := (c :: rest).drop digits.length
      let descriptor (standard : Nat) : Nat := (Octets.nat? digits).getD standard
      match behind with
      | '<' :: '<' :: more =>
        let tabs := more.head? = some '-'
        let more := (if tabs then more.drop 1 else more).dropWhile (· = ' ')
        match scan (more.length + 1) .bare [] more with
        | .error message => bad message
        | .ok (delimiter, after) =>
          let number := st.bodies.length + st.asked.length
          let st := emit (.here (descriptor 0) number)
          cut fuel line { st with asked := st.asked ++ [Asked.ofWord tabs delimiter] } after
      | _ =>
        match direction? behind with
        | some (direction, standard, after) => cut fuel line (emit (.redirection (descriptor standard) direction)) after
        | none =>
          match operator? (c :: rest) with
          | some (op, after) => cut fuel line (emit (.operator op)) after
          | none =>
            match scan (rest.length + 2) .bare [] (c :: rest) with
            | .error message => bad message
            | .ok (parts, after) =>
              cut fuel (line + newlinesBetween (c :: rest) after) (emit (.word parts (plain? parts))) after

/-- The tokens of a script and the bodies of its here-documents. Lines are counted from `line` on. -/
def tokens (line : Nat) (script : Octets) : List Located × List Word :=
  let st := cut (script.length + 1) line {} script
  (st.tokens.reverse, st.bodies)

end QueryGateway.Shell
