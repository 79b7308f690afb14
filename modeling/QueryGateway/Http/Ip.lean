import QueryGateway.Text.Fields

/-!
# Network addresses

An address has four numbers of eight bits, or eight groups of sixteen bits and the number of the interface that it
belongs to. The first kind is read in every way that was ever in use: with fewer numbers, the last of which then fills
the place of those that are missing, and with numbers in octal or hexadecimal digits.
-/

namespace QueryGateway.Http

/-- A network address. -/
inductive Ip where
  | v4 (a b c d : UInt8)
  /-- Eight groups; the interface is zero unless one is named. -/
  | v6 (groups : List UInt16) (interface : Nat)
deriving DecidableEq, Repr, Inhabited

namespace Ip

/-- The address that stands for every address of a machine. -/
def any : Ip := .v4 0 0 0 0

/-- The address that a machine reaches itself under. -/
def loopback : Ip := .v4 127 0 0 1

/-- The value of a digit; letters follow the decimal digits. -/
def digitValue (c : Char) : Nat :=
  let lower := c.toLower
  if lower.isDigit then lower.toNat - '0'.toNat
  else if lower.isAlpha then lower.toNat - 'a'.toNat + 10
  else 36

/-- The number that digits make, if there is one at least and each is below the base. -/
def digits? (base : Nat) (cs : List Char) : Option Nat :=
  if cs ≠ [] ∧ cs.all (digitValue · < base) then some (cs.foldl (fun n c => n * base + digitValue c) 0) else none

/-- A number of an address: hexadecimal behind `0x`, octal behind a zero, else decimal. -/
def number? : List Char → Option Nat
  | '0' :: 'x' :: cs => digits? 16 cs
  | '0' :: 'X' :: cs => digits? 16 cs
  | '0' :: cs => digits? 8 ('0' :: cs)
  | cs => digits? 10 cs

/-- The address with all its bits in one number. -/
def ofBits (n : Nat) : Ip :=
  .v4 (UInt8.ofNat (n / 16777216)) (UInt8.ofNat (n / 65536)) (UInt8.ofNat (n / 256)) (UInt8.ofNat n)

/-- The bits that numbers make; each but the last is one byte. -/
def bits? : List Nat → Option Nat
  | [] => none
  | [n] => if n < UInt32.size then some n else none
  | [a, n] => if a < 256 ∧ n < 16777216 then some (a * 16777216 + n) else none
  | [a, b, n] => if a < 256 ∧ b < 256 ∧ n < 65536 then some ((a * 256 + b) * 65536 + n) else none
  | [a, b, c, n] =>
    if a < 256 ∧ b < 256 ∧ c < 256 ∧ n < 256 then some (((a * 256 + b) * 256 + c) * 256 + n) else none
  | _ => none

/-- Reads an address of four numbers, in any of its forms. -/
def v4OfChars? (cs : List Char) : Option Ip :=
  (((Text.fields '.' cs).mapM number?).bind bits?).map ofBits

/-- One of four numbers in plain decimal digits. -/
def plainByte? (cs : List Char) : Option UInt16 :=
  match cs with
  | '0' :: _ :: _ => none
  | cs => ((digits? 10 cs).filter (· < 256)).map UInt16.ofNat

/-- The two groups that four plain numbers make. -/
def plainGroups? (cs : List Char) : Option (List UInt16) :=
  match (Text.fields '.' cs).mapM plainByte? with
  | some [a, b, c, d] => some [a * 256 + b, c * 256 + d]
  | _ => none

/-- A group of up to four hexadecimal digits. -/
def group? (cs : List Char) : Option UInt16 :=
  if cs.length ≤ 4 then (digits? 16 cs).map UInt16.ofNat else none

/-- The groups of a text with single colons between them; the last two may be written as four numbers if `plain`. -/
def groups? (plain : Bool) (cs : List Char) : Option (List UInt16) :=
  if cs = [] then some []
  else
    let fields := Text.fields ':' cs
    let last := fields.getLast?.getD []
    if plain && last.contains '.' then do
      return (← fields.dropLast.mapM group?) ++ (← plainGroups? last)
    else fields.mapM group?

/-- A text up to its first double colon, and what follows it. -/
def splitGap : List Char → List Char × Option (List Char)
  | ':' :: ':' :: rest => ([], some rest)
  | c :: rest =>
    let (front, back) := splitGap rest
    (c :: front, back)
  | [] => ([], none)

/-- Reads eight groups. A double colon stands for at least one group of zeros, as many as are missing. -/
def v6OfChars? (cs : List Char) : Option (List UInt16) :=
  match splitGap cs with
  | (all, none) => (groups? true all).filter (·.length = 8)
  | (front, some back) => do
    let front ← groups? false front
    let back ← groups? true back
    if front.length + back.length < 8 then
      return front ++ List.replicate (8 - front.length - back.length) 0 ++ back
    else none

/-- The address of four numbers inside one of eight groups, if there is one. -/
def mapped? : List UInt16 → Option Ip
  | [0, 0, 0, 0, 0, 0xffff, high, low] =>
    some (.v4 (high / 256).toUInt8 high.toUInt8 (low / 256).toUInt8 low.toUInt8)
  | _ => none

/-- Where the longest run of zero groups starts and how long it is; of equal ones the first. -/
def longestRun (groups : List UInt16) : Nat × Nat :=
  (List.range groups.length).foldl (fun best start =>
    let length := ((groups.drop start).takeWhile (· = 0)).length
    if best.2 < length then (start, length) else best) (0, 0)

/-- Groups with colons between them. -/
def renderGroups (groups : List UInt16) : String :=
  ":".intercalate (groups.map fun g => String.ofList (Nat.toDigits 16 g.toNat))

/-- Four numbers with dots between them. -/
def renderBytes (a b c d : UInt8) : String :=
  ".".intercalate ([a, b, c, d].map fun n => Nat.repr n.toNat)

/-- An address as it is written: a run of at least two zero groups as a double colon. -/
def render : Ip → String
  | .v4 a b c d => renderBytes a b c d
  | .v6 groups _ =>
    match mapped? groups with
    | some (.v4 a b c d) => "::ffff:" ++ renderBytes a b c d
    | _ =>
      let (start, length) := longestRun groups
      if length < 2 then renderGroups groups
      else renderGroups (groups.take start) ++ "::" ++ renderGroups (groups.drop (start + length))

/-- Whether an address belongs to one wire. -/
def isLocalToWire : List UInt16 → Bool
  | first :: _ => first &&& 0xffc0 = 0xfe80
  | [] => false

/-- Whether an address stands for a group of machines. -/
def isForGroup : List UInt16 → Bool
  | first :: _ => first / 256 = 0xff
  | [] => false

/-- Whether an address stands for the machines on one wire. -/
def isForGroupOnWire : List UInt16 → Bool
  | first :: _ => first &&& 0xff0f = 0xff02
  | [] => false

/-- The address of four numbers under which a server at an address is found. -/
def plain : Ip → Ip
  | .v4 a b c d => .v4 a b c d
  | .v6 groups interface =>
    if groups.all (· = 0) then any else (mapped? groups).getD (.v6 groups interface)

/-- Whether two servers at the same port would be in each other's way. -/
def meets (a b : Ip) : Bool :=
  a.plain = b.plain || a.plain = any || b.plain = any

end Ip

end QueryGateway.Http
