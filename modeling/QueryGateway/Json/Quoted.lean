import QueryGateway.Json.Source

/-!
# Strings of a document

Writing escapes the quote, the backslash and the characters below U+0020 and nothing else. Reading takes one piece at a
time and is a small machine, so that it needs no more stack for a long string than for a short one.
-/

namespace QueryGateway.Json

open Text (Segment)

/-- The lower-case hexadecimal digit of a number below sixteen. -/
def hexDigit (n : Nat) : Char :=
  if n < 10 then Char.ofNat ('0'.toNat + n) else Char.ofNat ('a'.toNat + (n - 10))

/-- How one character is written inside a string. -/
def escaped (c : Char) : List Char :=
  if c = '"' then ['\\', '"']
  else if c = '\\' then ['\\', '\\']
  else if c.toNat = 0x08 then ['\\', 'b']
  else if c.toNat = 0x09 then ['\\', 't']
  else if c.toNat = 0x0A then ['\\', 'n']
  else if c.toNat = 0x0C then ['\\', 'f']
  else if c.toNat = 0x0D then ['\\', 'r']
  else if c.toNat < 0x20 then ['\\', 'u', '0', '0', hexDigit (c.toNat / 16), hexDigit (c.toNat % 16)]
  else [c]

/-- A string as it is written, with its quotes. -/
def quotedChars (cs : List Char) : List Char :=
  '"' :: (cs.flatMap escaped ++ ['"'])

/-- A text as a string of a document. -/
def quoted (s : String) : String :=
  String.ofList (quotedChars s.toList)

/-- The value of a hexadecimal digit, of either case. -/
def hexValue? (p : Segment) : Option Nat :=
  match p with
  | .char c =>
    if c.isDigit then some (c.toNat - '0'.toNat)
    else if 'a' ≤ c ∧ c ≤ 'f' then some (c.toNat - 'a'.toNat + 10)
    else if 'A' ≤ c ∧ c ≤ 'F' then some (c.toNat - 'A'.toNat + 10)
    else none
  | .broken _ => none

/-- The character that a one-letter escape stands for. -/
def shortEscape? : Char → Option Char
  | '"' => some '"'
  | '\\' => some '\\'
  | '/' => some '/'
  | 'b' => some (Char.ofNat 0x08)
  | 'f' => some (Char.ofNat 0x0C)
  | 'n' => some '\n'
  | 'r' => some '\r'
  | 't' => some '\t'
  | _ => none

/-- Where in a string the reader stands. `high` is the first half of a surrogate pair whose second half is owed. -/
inductive Place where
  | plain
  | escape
  | hex (value owed : Nat) (high : Option Nat)
  | owesBackslash (high : Nat)
  | owesLetter (high : Nat)
deriving DecidableEq, Repr

/-- Whether a code unit is the first half of a surrogate pair. -/
def isHigh (n : Nat) : Bool := 0xD800 ≤ n && n ≤ 0xDBFF

/-- Whether a code unit is the second half of a surrogate pair. -/
def isLow (n : Nat) : Bool := 0xDC00 ≤ n && n ≤ 0xDFFF

/-- The character of a surrogate pair. -/
def ofPair (high low : Nat) : Char :=
  Char.ofNat (0x10000 + (high - 0xD800) * 0x400 + (low - 0xDC00))

/-- What a finished four-digit escape does: it is a character, or the first half of a pair, or it is refused. -/
def hexDone (value : Nat) (high : Option Nat) : Except Flaw (Place × List Char) :=
  match high with
  | some h => if isLow value then .ok (.plain, [ofPair h value]) else .error .malformed
  | none =>
    if isLow value then .error .malformed
    else if isHigh value then .ok (.owesBackslash value, [])
    else .ok (.plain, [Char.ofNat value])

/-- The rest of a string whose opening quote has been taken. `acc` holds the characters so far, newest first; `sound`
says that no ill-formed bytes were among them, which counts only when the closing quote is reached. An escape with
four digits needs four more bytes before it is looked at. -/
def readQuoted : Place → List Char → Bool → Source → Except Flaw (String × Source)
  | _, _, _, [] => .error .truncated
  | .plain, acc, _, .broken _ :: rest => readQuoted .plain acc false rest
  | .plain, acc, sound, .char c :: rest =>
    if c = '"' then
      if sound then .ok (String.ofList acc.reverse, rest) else .error .malformed
    else if c = '\\' then readQuoted .escape acc sound rest
    else if c.toNat < 0x20 then .error .malformed
    else readQuoted .plain (c :: acc) sound rest
  | .escape, _, _, .broken _ :: _ => .error .malformed
  | .escape, acc, sound, .char c :: rest =>
    match shortEscape? c with
    | some d => readQuoted .plain (d :: acc) sound rest
    | none =>
      if c = 'u' then
        if Source.holds 4 rest then readQuoted (.hex 0 4 none) acc sound rest else .error .truncated
      else .error .malformed
  | .hex value owed high, acc, sound, p :: rest =>
    match hexValue? p with
    | none => .error .malformed
    | some d =>
      if owed ≤ 1 then
        match hexDone (value * 16 + d) high with
        | .error f => .error f
        | .ok (place, cs) => readQuoted place (cs ++ acc) sound rest
      else readQuoted (.hex (value * 16 + d) (owed - 1) high) acc sound rest
  | .owesBackslash high, acc, sound, p :: rest =>
    if p = .char '\\' then readQuoted (.owesLetter high) acc sound rest else .error .malformed
  | .owesLetter high, acc, sound, p :: rest =>
    if p = .char 'u' then
      if Source.holds 4 rest then readQuoted (.hex 0 4 (some high)) acc sound rest else .error .truncated
    else .error .malformed

/-- A text that ends before the closing quote is cut short. -/
theorem readQuoted_nil (place : Place) (acc : List Char) (sound : Bool) :
    readQuoted place acc sound [] = .error .truncated := by
  rw [readQuoted]

/-- The string at the front of a text, behind its opening quote. -/
def string (s : Source) : Except Flaw (String × Source) :=
  readQuoted .plain [] true s

/-- Passes over a string whose value nobody wants: the form of its escapes and its control characters are checked, its
bytes and surrogates are not. `owed` counts the digits of an escape still to come. -/
def passQuoted : Place → Source → Except Flaw Source
  | _, [] => .error .truncated
  | .escape, .char c :: rest =>
    if c = 'u' then
      if Source.holds 4 rest then passQuoted (.hex 0 4 none) rest else .error .truncated
    else if (shortEscape? c).isSome then passQuoted .plain rest
    else .error .malformed
  | .escape, .broken _ :: _ => .error .malformed
  | .hex _ owed _, p :: rest =>
    if (hexValue? p).isNone then .error .malformed
    else if owed ≤ 1 then passQuoted .plain rest
    else passQuoted (.hex 0 (owed - 1) none) rest
  | _, .broken _ :: rest => passQuoted .plain rest
  | _, .char c :: rest =>
    if c = '"' then .ok rest
    else if c = '\\' then passQuoted .escape rest
    else if c.toNat < 0x20 then .error .malformed
    else passQuoted .plain rest

/-- What follows a string that is passed over, behind its opening quote. -/
def passString (s : Source) : Except Flaw Source :=
  passQuoted .plain s

end QueryGateway.Json
