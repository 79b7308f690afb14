import QueryGateway.Shell.Octets

/-!
# Arithmetic of scripts

Integer expressions over variables, in words of 64 bits that wrap around.
-/

namespace QueryGateway.Shell

namespace Arithmetic

/-- A token of an expression. -/
inductive Token where
  | number (n : Int)
  | name (o : Octets)
  | operator (s : String)
deriving DecidableEq, Repr, Inhabited

/-- The operators, longer ones first. -/
def operators : List String :=
  ["<<=", ">>=", "&&", "||", "==", "!=", "<=", ">=", "<<", ">>", "+=", "-=", "*=", "/=", "%=", "&=", "|=", "^=",
   "+", "-", "*", "/", "%", "<", ">", "=", "!", "~", "&", "|", "^", "?", ":", "(", ")"]

/-- The number at the front of a text: decimal, octal behind a zero, hexadecimal behind `0x`. -/
def readNumber (o : Octets) : Nat × Octets :=
  match o with
  | '0' :: 'x' :: rest => Octets.readBase 16 0 rest
  | '0' :: 'X' :: rest => Octets.readBase 16 0 rest
  | '0' :: rest => Octets.readBase 8 0 rest
  | rest => Octets.readBase 10 0 rest

/-- The tokens of an expression; what is none is an operator that nothing knows. -/
def tokens : Nat → List Token → Octets → List Token
  | 0, acc, _ => acc.reverse
  | _ + 1, acc, [] => acc.reverse
  | fuel + 1, acc, c :: rest =>
    if c = ' ' ∨ c = '\t' ∨ c = '\n' then tokens fuel acc rest
    else if c.isDigit then
      let (n, after) := readNumber (c :: rest)
      tokens fuel (.number n :: acc) after
    else if isNameStart c then
      tokens fuel (.name ((c :: rest).takeWhile isNameChar) :: acc) ((c :: rest).dropWhile isNameChar)
    else
      match operators.find? fun op => op.toList.isPrefixOf (c :: rest) with
      | some op => tokens fuel (.operator op :: acc) ((c :: rest).drop op.length)
      | none => tokens fuel (.operator (String.singleton c) :: acc) rest

/-- An expression. -/
inductive Expr where
  | number (n : Int)
  | name (o : Octets)
  | unary (op : String) (e : Expr)
  | binary (op : String) (a b : Expr)
  | choice (c a b : Expr)
  | assign (op : String) (name : Octets) (e : Expr)
deriving Repr, Inhabited

/-- How tightly a binary operator binds. -/
def strength? : String → Option Nat
  | "||" => some 1
  | "&&" => some 2
  | "|" => some 3
  | "^" => some 4
  | "&" => some 5
  | "==" => some 6
  | "!=" => some 6
  | "<" => some 7
  | "<=" => some 7
  | ">" => some 7
  | ">=" => some 7
  | "<<" => some 8
  | ">>" => some 8
  | "+" => some 9
  | "-" => some 9
  | "*" => some 10
  | "/" => some 10
  | "%" => some 10
  | _ => none

/-- The assignments, by the operator that they apply. -/
def assignments : List (String × String) :=
  [("=", ""), ("+=", "+"), ("-=", "-"), ("*=", "*"), ("/=", "/"), ("%=", "%"), ("&=", "&"), ("|=", "|"), ("^=", "^"),
   ("<<=", "<<"), (">>=", ">>")]

mutual

/-- An operand. -/
def operand : Nat → List Token → Option (Expr × List Token)
  | 0, _ => none
  | _ + 1, .number n :: rest => some (.number n, rest)
  | _ + 1, .name o :: rest => some (.name o, rest)
  | fuel + 1, .operator "(" :: rest =>
    match whole fuel rest with
    | some (e, .operator ")" :: after) => some (e, after)
    | _ => none
  | fuel + 1, .operator op :: rest =>
    if ["-", "+", "!", "~"].contains op then (operand fuel rest).map fun (e, after) => (.unary op e, after) else none
  | _ + 1, [] => none

/-- Operators of at least a strength behind an operand. -/
def climb : Nat → Nat → Expr → List Token → Option (Expr × List Token)
  | 0, _, e, ts => some (e, ts)
  | fuel + 1, least, e, ts =>
    match ts with
    | .operator op :: rest =>
      match strength? op with
      | some s =>
        if least ≤ s then
          match operand fuel rest with
          | none => none
          | some (b, after) =>
            match climb fuel (s + 1) b after with
            | none => none
            | some (b, after) => climb fuel least (.binary op e b) after
        else some (e, ts)
      | none => some (e, ts)
    | _ => some (e, ts)

/-- A whole expression: an assignment, a choice, or operators. -/
def whole : Nat → List Token → Option (Expr × List Token)
  | 0, _ => none
  | fuel + 1, ts =>
    let plain : Option (Expr × List Token) :=
      match operand fuel ts with
      | none => none
      | some (e, rest) =>
        match climb fuel 1 e rest with
        | some (c, .operator "?" :: rest) =>
          match whole fuel rest with
          | some (a, .operator ":" :: rest) => (whole fuel rest).map fun (b, after) => (.choice c a b, after)
          | _ => none
        | other => other
    match ts with
    | .name o :: .operator op :: rest =>
      match assignments.lookup op with
      | some apply => (whole fuel rest).map fun (e, after) => (.assign apply o e, after)
      | none => plain
    | _ => plain

end

/-- The variables that an expression reads and writes. -/
abbrev Values := Octets → Int

/-- A word of 64 bits. -/
def wrap (i : Int) : Int := Int.bmod i UInt64.size

/-- The truth of a condition as a number. -/
def truth (b : Bool) : Int := if b then 1 else 0

/-- The value of a binary operator; nothing for a division by zero. -/
def apply (op : String) (a b : Int) : Option Int :=
  let bits (f : Nat → Nat → Nat) : Int := wrap (f (a % UInt64.size).toNat (b % UInt64.size).toNat)
  match op with
  | "+" => some (wrap (a + b))
  | "-" => some (wrap (a - b))
  | "*" => some (wrap (a * b))
  | "/" => if b = 0 then none else some (wrap (a.tdiv b))
  | "%" => if b = 0 then none else some (wrap (a.tmod b))
  | "<" => some (truth (a < b))
  | "<=" => some (truth (a ≤ b))
  | ">" => some (truth (a > b))
  | ">=" => some (truth (a ≥ b))
  | "==" => some (truth (a = b))
  | "!=" => some (truth (a ≠ b))
  | "&" => some (bits (· &&& ·))
  | "|" => some (bits (· ||| ·))
  | "^" => some (bits (· ^^^ ·))
  | "<<" => some (wrap (a * Nat.pow 2 (b % 64).toNat))
  | ">>" => some (a / Nat.pow 2 (b % 64).toNat)
  | _ => some b

/-- The value of an expression and what it assigns, the last assignment first. -/
def eval (values : Values) (set : List (Octets × Int)) : Expr → Option (Int × List (Octets × Int))
  | .number n => some (wrap n, set)
  | .name o => some ((set.lookup o).getD (values o), set)
  | .unary op e =>
    match eval values set e with
    | none => none
    | some (v, set) =>
      match op with
      | "-" => some (wrap (-v), set)
      | "!" => some (truth (v = 0), set)
      | "~" => some (wrap (-v - 1), set)
      | _ => some (v, set)
  | .binary op a b =>
    match eval values set a with
    | none => none
    | some (x, set) =>
      if op = "&&" ∧ x = 0 then some (0, set)
      else if op = "||" ∧ x ≠ 0 then some (1, set)
      else
        match eval values set b with
        | none => none
        | some (y, set) =>
          if op = "&&" ∨ op = "||" then some (truth (y ≠ 0), set)
          else (apply op x y).map fun v => (v, set)
  | .choice c a b =>
    match eval values set c with
    | none => none
    | some (x, set) => if x ≠ 0 then eval values set a else eval values set b
  | .assign op name e =>
    match eval values set e with
    | none => none
    | some (v, set) =>
      let old := (set.lookup name).getD (values name)
      (apply op old v).map fun v => (v, (name, v) :: set)

/-- The value of the text of an expression and what it assigns, in order, or why it has none. An empty text is zero. -/
def run (values : Values) (text : Octets) : Except String (Int × List (Octets × Int)) :=
  match tokens (text.length + 1) [] text with
  | [] => .ok (0, [])
  | ts =>
    match whole (4 * ts.length + 8) ts with
    | none => .error "expecting primary"
    | some (_, _ :: _) => .error "expecting EOF"
    | some (e, []) =>
      match eval values [] e with
      | none => .error "division by zero"
      | some (v, set) => .ok (v, set.reverse)

end Arithmetic

end QueryGateway.Shell
