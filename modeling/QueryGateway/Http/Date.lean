import QueryGateway.Text.Blank

/-!
# Dates in headers

A moment to the second, written in one of three ways: with a short weekday and a year of four digits, with a long
weekday and a year of two, or with the year at the end. The weekday is read and not held against the date.
-/

namespace QueryGateway.Http

/-- A date and a time of day. -/
structure Date where
  year : Nat
  month : Nat
  day : Nat
  hour : Nat
  minute : Nat
  second : Nat
deriving DecidableEq, Repr, Inhabited

namespace Date

/-- The weekdays, by the names that the second form writes. -/
def weekdays : List String :=
  ["Monday", "Tuesday", "Wednesday", "Thursday", "Friday", "Saturday", "Sunday"]

/-- The months with their lengths in a year that is no leap year. -/
def months : List (String × Nat) :=
  [("Jan", 31), ("Feb", 28), ("Mar", 31), ("Apr", 30), ("May", 31), ("Jun", 30), ("Jul", 31), ("Aug", 31),
   ("Sep", 30), ("Oct", 31), ("Nov", 30), ("Dec", 31)]

/-- The number of a month by its name, from one. -/
def month? (name : List Char) : Option Nat :=
  (months.findIdx? fun (known, _) => known.toList = name).map (· + 1)

/-- Whether a text is the name of a weekday in three letters. -/
def isShortWeekday (name : List Char) : Bool :=
  weekdays.any fun known => known.toList.take 3 = name

/-- Whether a year has a day more than others. -/
def isLeap (year : Nat) : Bool :=
  year % 4 = 0 && (year % 100 ≠ 0 || year % 400 = 0)

/-- The number that digits make, if there are as many as wanted and nothing else. -/
def digits? (count : Nat) (cs : List Char) : Option Nat :=
  if cs.length = count ∧ cs.all Char.isDigit then
    some (cs.foldl (fun n c => n * 10 + (c.toNat - '0'.toNat)) 0)
  else none

/-- The part of a text from a position, of some length. -/
def part (cs : List Char) (start length : Nat) : List Char :=
  (cs.drop start).take length

/-- A time of day from a position: hour, minute and second of two digits each, with colons between them. -/
def clock? (cs : List Char) (start : Nat) : Option (Nat × Nat × Nat) := do
  guard (part cs (start + 2) 1 = [':'] ∧ part cs (start + 5) 1 = [':'])
  let hour ← digits? 2 (part cs start 2)
  let minute ← digits? 2 (part cs (start + 3) 2)
  let second ← digits? 2 (part cs (start + 6) 2)
  return (hour, minute, second)

/-- Reads the form `Sun, 06 Nov 1994 08:49:37 GMT`. -/
def ofShort? (cs : List Char) : Option Date := do
  guard (cs.length = 29 ∧ cs.drop 25 = " GMT".toList ∧ isShortWeekday (cs.take 3) ∧ part cs 3 2 = ", ".toList ∧
    part cs 7 1 = [' '] ∧ part cs 11 1 = [' '] ∧ part cs 16 1 = [' '])
  let day ← digits? 2 (part cs 5 2)
  let month ← month? (part cs 8 3)
  let year ← digits? 4 (part cs 12 4)
  let (hour, minute, second) ← clock? cs 17
  return ⟨year, month, day, hour, minute, second⟩

/-- Reads the form `Sunday, 06-Nov-94 08:49:37 GMT`. Years from 70 on are of the last century. Any one character stands
before the time of day. -/
def ofLong? (cs : List Char) : Option Date := do
  let weekday := cs.takeWhile (· ≠ ',')
  let cs := cs.drop weekday.length
  guard (weekdays.any (·.toList = weekday) ∧ cs.length = 24 ∧ cs.take 2 = ", ".toList ∧ cs.drop 20 = " GMT".toList ∧
    part cs 4 1 = ['-'] ∧ part cs 8 1 = ['-'])
  let day ← digits? 2 (part cs 2 2)
  let month ← month? (part cs 5 3)
  let year ← digits? 2 (part cs 9 2)
  let (hour, minute, second) ← clock? cs 12
  return ⟨if year < 70 then 2000 + year else 1900 + year, month, day, hour, minute, second⟩

/-- Reads the form `Sun Nov  6 08:49:37 1994`, in which a day below ten has a blank for its first digit. -/
def ofYearLast? (cs : List Char) : Option Date := do
  guard (cs.length = 24 ∧ isShortWeekday (cs.take 3) ∧ part cs 3 1 = [' '] ∧ part cs 7 1 = [' '] ∧
    part cs 10 1 = [' '] ∧ part cs 19 1 = [' '])
  let month ← month? (part cs 4 3)
  let day ← match part cs 8 2 with
    | [' ', digit] => digits? 1 [digit]
    | both => digits? 2 both
  let (hour, minute, second) ← clock? cs 11
  let year ← digits? 4 (cs.drop 20)
  return ⟨year, month, day, hour, minute, second⟩

/-- Whether the parts of a date lie in their bounds. A month may be given more days than it has. -/
def isValid (d : Date) : Bool :=
  d.second < 60 && d.minute < 60 && d.hour < 24 && 0 < d.day && d.day < 32 && 1970 ≤ d.year && d.year ≤ 9999

/-- Reads a date, with blanks around it or without. -/
def ofString? (s : String) : Option Date :=
  let cs := Text.trimChars s.toList
  if s.toList.all (·.toNat < 128) then
    ((ofShort? cs).or ((ofLong? cs).or (ofYearLast? cs))).filter isValid
  else none

/-- The days of a year before one of its months. -/
def daysBefore (year month : Nat) : Nat :=
  (months.take (month - 1)).foldl (fun n (_, days) => n + days) 0 + if isLeap year && 2 < month then 1 else 0

/-- How many years before a year are leap years. -/
def leapYearsBefore (year : Nat) : Nat :=
  (year - 1) / 4 - (year - 1) / 100 + (year - 1) / 400

/-- The seconds from the start of 1970 to a date. -/
def seconds (d : Date) : Nat :=
  let days := (d.year - 1970) * 365 + (leapYearsBefore d.year - leapYearsBefore 1970) + daysBefore d.year d.month +
    (d.day - 1)
  ((days * 24 + d.hour) * 60 + d.minute) * 60 + d.second

end Date

end QueryGateway.Http
