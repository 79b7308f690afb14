import QueryGateway.Shell.Octets

/-!
# Formats and escapes

What `printf` and `echo` make of their arguments. A format is used again as long as arguments are left; an argument
that is no number counts as far as it is one, and is complained about.
-/

namespace QueryGateway.Shell

namespace Format

/-- The characters of one-letter escapes. -/
def shortEscape? : Char → Option Char
  | 'a' => some (Char.ofNat 7)
  | 'b' => some (Char.ofNat 8)
  | 'f' => some (Char.ofNat 12)
  | 'n' => some '\n'
  | 'r' => some '\r'
  | 't' => some '\t'
  | 'v' => some (Char.ofNat 11)
  | '\\' => some '\\'
  | _ => none

/-- An octal digit. -/
def isOctal (c : Char) : Bool := '0' ≤ c && c ≤ '7'

/-- The octal digits at the front, at most so many. -/
def octal (most : Nat) (o : Octets) : Octets :=
  (o.take most).takeWhile isOctal

/-- The character of octal digits, as a byte. -/
def octalChar (digits : Octets) : Char :=
  Char.ofNat ((Octets.readBase 8 0 digits).1 % 256)

/-- A text with its escapes replaced, and whether it went on to its end: `\c` stops everything. Octal escapes start
with a zero where `zero` says so, and have up to three digits behind it. -/
def unescape (zero : Bool) : Nat → Octets → Octets → Octets × Bool
  | 0, acc, _ => (acc.reverse, true)
  | _ + 1, acc, [] => (acc.reverse, true)
  | fuel + 1, acc, '\\' :: rest =>
    match rest with
    | [] => (('\\' :: acc).reverse, true)
    | c :: after =>
      if c = 'c' ∧ zero then (acc.reverse, false)
      else
        match shortEscape? c with
        | some d => unescape zero fuel (d :: acc) after
        | none =>
          if zero ∧ c = '0' then
            let digits := octal 3 after
            unescape zero fuel (octalChar digits :: acc) (after.drop digits.length)
          else if !zero ∧ isOctal c then
            let digits := octal 3 rest
            unescape zero fuel (octalChar digits :: acc) (rest.drop digits.length)
          else unescape zero fuel ('\\' :: acc) rest
  | fuel + 1, acc, c :: rest => unescape zero fuel (c :: acc) rest

/-- What `echo` of the shell prints for a text. -/
def echoed (o : Octets) : Octets × Bool :=
  unescape true (o.length + 1) [] o

/-- A conversion of a format: its flags, width, precision and letter. -/
structure Conversion where
  flags : Octets
  width : Option Nat
  precision : Option Nat
  letter : Char
deriving Repr, Inhabited

namespace Conversion

/-- Whether a flag is set. -/
def has (c : Conversion) (flag : Char) : Bool := c.flags.contains flag

/-- A text padded to the width of its conversion; with zeros where those are wanted and the text starts with a sign of
`sign` characters. -/
def pad (c : Conversion) (zeros : Bool) (sign : Octets) (body : Octets) : Octets :=
  let missing := c.width.getD 0 - (sign.length + body.length)
  if c.has '-' then sign ++ body ++ List.replicate missing ' '
  else if zeros then sign ++ List.replicate missing '0' ++ body
  else List.replicate missing ' ' ++ sign ++ body

/-- A text cut to the precision and padded. -/
def text (c : Conversion) (o : Octets) : Octets :=
  c.pad false [] (match c.precision with
    | some n => o.take n
    | none => o)

/-- The digits of a number with at least as many as the precision asks for. -/
def digits (c : Conversion) (base : Nat) (upper : Bool) (n : Nat) : Octets :=
  let ds := if n = 0 ∧ c.precision = some 0 then [] else Nat.toDigits base n
  let ds := if upper then ds.map Char.toUpper else ds
  List.replicate (c.precision.getD 0 - ds.length) '0' ++ ds

/-- A number as its letter wants it. -/
def number (c : Conversion) (i : Int) : Octets :=
  let zeros := c.has '0' && c.precision.isNone
  let unsigned := (i % UInt64.size).toNat
  match c.letter with
  | 'o' =>
    let ds := c.digits 8 false unsigned
    c.pad zeros [] (if c.has '#' ∧ ds.head? ≠ some '0' then '0' :: ds else ds)
  | 'x' => c.pad zeros (if c.has '#' ∧ unsigned ≠ 0 then ['0', 'x'] else []) (c.digits 16 false unsigned)
  | 'X' => c.pad zeros (if c.has '#' ∧ unsigned ≠ 0 then ['0', 'X'] else []) (c.digits 16 true unsigned)
  | 'u' => c.pad zeros [] (c.digits 10 false unsigned)
  | _ =>
    let sign := if i < 0 then ['-'] else if c.has '+' then ['+'] else if c.has ' ' then [' '] else []
    c.pad zeros sign (c.digits 10 false i.natAbs)

end Conversion

/-- What became of an argument that should be a number. -/
structure NumberRead where
  value : Int
  complaint : Option String := none
deriving Repr, Inhabited

/-- Reads an argument as a number: decimal, octal behind a zero, hexadecimal behind `0x`, or the code of the character
behind a quote. -/
def readNumber (o : Octets) : NumberRead :=
  match o with
  | [] => ⟨0, none⟩
  | '\'' :: c :: _ => ⟨c.toNat, none⟩
  | '"' :: c :: _ => ⟨c.toNat, none⟩
  | _ =>
    let o := o.dropWhile fun c => c = ' ' || c = '\t' || c = '\n'
    let negative := o.head? = some '-'
    let body := if negative ∨ o.head? = some '+' then o.drop 1 else o
    let (digits, rest) : Octets × (Nat × Octets) := match body with
      | '0' :: 'x' :: rest => (rest, Octets.readBase 16 0 rest)
      | '0' :: 'X' :: rest => (rest, Octets.readBase 16 0 rest)
      | '0' :: rest => ('0' :: rest, Octets.readBase 8 0 ('0' :: rest))
      | rest => (rest, Octets.readBase 10 0 rest)
    let (n, left) := rest
    let value : Int := if negative then -(n : Int) else n
    let half : Int := UInt64.size / 2
    let bounded := max (-half) (min (half - 1) value)
    if left.length = digits.length then ⟨0, some "expected numeric value"⟩
    else if left ≠ [] then ⟨bounded, some "not completely converted"⟩
    else if bounded ≠ value then ⟨bounded, some "Numerical result out of range"⟩
    else ⟨value, none⟩

/-- What a format has made so far. -/
structure Made where
  out : Octets := []
  arguments : List Octets
  used : Bool := false
  /-- What was wrong, and with which argument or directive. -/
  complaints : List (Octets × String) := []
  stopped : Bool := false
  /-- Whether the format itself was at fault. -/
  broken : Bool := false
deriving Inhabited

/-- Takes the next argument; an empty one when none is left. -/
def Made.take (m : Made) : Octets × Made :=
  match m.arguments with
  | [] => ([], { m with used := true })
  | a :: rest => (a, { m with arguments := rest, used := true })

/-- Takes the next argument as a number. -/
def Made.takeNumber (m : Made) : Int × Made :=
  let (a, m) := m.take
  let read := readNumber a
  match read.complaint with
  | none => (read.value, m)
  | some words => (read.value, { m with complaints := m.complaints ++ [(a, words)] })

/-- A width or precision: digits, or a star for the next argument. -/
def count (m : Made) (o : Octets) : Option Int × Made × Octets :=
  match o with
  | '*' :: rest =>
    let (n, m) := m.takeNumber
    (some n, m, rest)
  | _ =>
    let digits := o.takeWhile Char.isDigit
    ((Octets.nat? digits).map fun n => (n : Int), m, o.drop digits.length)

/-- Converts one argument. -/
def convert (m : Made) (c : Conversion) : Made :=
  match c.letter with
  | 's' =>
    let (a, m) := m.take
    { m with out := m.out ++ c.text a }
  | 'c' =>
    let (a, m) := m.take
    { m with out := m.out ++ c.text (a.take 1) }
  | 'b' =>
    let (a, m) := m.take
    let (s, whole) := unescape true (a.length + 1) [] a
    { m with out := m.out ++ c.text s, stopped := !whole }
  | _ =>
    let (n, m) := m.takeNumber
    { m with out := m.out ++ c.number n }

/-- Runs through a format once. -/
def pass : Nat → Made → Octets → Made
  | 0, m, _ => m
  | _ + 1, m, [] => m
  | fuel + 1, m, '%' :: '%' :: rest => pass fuel { m with out := m.out ++ ['%'] } rest
  | fuel + 1, m, '%' :: whole =>
    let rest := whole
    let flags := rest.takeWhile ['-', '+', ' ', '#', '0'].contains
    let (width, m, rest) := count m (rest.drop flags.length)
    let (precision, m, rest) : Option Int × Made × Octets := match rest with
      | '.' :: after =>
        let (p, m, after) := count m after
        (some (p.getD 0), m, after)
      | _ => (none, m, rest)
    match rest with
    | [] => { m with complaints := m.complaints ++ [([], "missing format character")], stopped := true, broken := true }
    | letter :: after =>
      if ['d', 'i', 'o', 'u', 'x', 'X', 'c', 's', 'b'].contains letter then
        let flags := if width.any (· < 0) then '-' :: flags else flags
        let c : Conversion :=
          { flags := flags, width := width.map Int.natAbs, precision := precision.map Int.toNat, letter := letter }
        let m := convert m c
        if m.stopped then m else pass fuel m after
      else
        let directive := '%' :: whole.take (whole.length - after.length)
        { m with complaints := m.complaints ++ [(directive, "invalid directive")], stopped := true, broken := true }
  | fuel + 1, m, '\\' :: rest =>
    match rest with
    | [] => { m with out := m.out ++ ['\\'] }
    | c :: after =>
      match shortEscape? c with
      | some d => pass fuel { m with out := m.out ++ [d] } after
      | none =>
        if isOctal c then
          let digits := octal 3 rest
          pass fuel { m with out := m.out ++ [octalChar digits] } (rest.drop digits.length)
        else pass fuel { m with out := m.out ++ ['\\'] } rest
  | fuel + 1, m, c :: rest =>
    let stretch := rest.takeWhile fun d => d ≠ '%' && d ≠ '\\'
    pass fuel { m with out := m.out ++ c :: stretch } (rest.drop stretch.length)

/-- Runs through a format as long as arguments are left and it takes any. -/
def passes (format : Octets) : Nat → Made → Made
  | 0, m => m
  | fuel + 1, m =>
    let m := pass (format.length + 1) { m with used := false } format
    if m.stopped ∨ m.arguments.isEmpty ∨ !m.used then m else passes format fuel m

/-- What a format makes of its arguments. -/
def run (format : Octets) (arguments : List Octets) : Made :=
  passes format (arguments.length + 1) { arguments := arguments }

end Format

end QueryGateway.Shell
