import QueryGateway.Files.Tree
import QueryGateway.Shell.Octets

/-!
# Patterns

Patterns of words: a star stands for any stretch, a question mark for any one character, brackets for one of several.
Quoted characters stand for themselves.
-/

namespace QueryGateway.Shell

/-- A character of a pattern, and whether it is quoted. -/
abbrev Marked := Char × Bool

namespace Pattern

/-- The upper end of a range, if a hyphen and another member follow. -/
def rangeEnd? : List Marked → Option Char
  | ('-', false) :: (d, q) :: _ => if d = ']' ∧ !q then none else some d
  | _ => none

/-- The members of a bracket expression, up to its closing bracket; the first character is always a member. -/
def bracket : Bool → List Marked → List (Char × Char) → Option (List (Char × Char) × List Marked)
  | _, [], _ => none
  | first, (c, q) :: rest, acc =>
    if c = ']' ∧ !q ∧ !first then some (acc, rest)
    else
      match rangeEnd? rest with
      | some d => bracket false (rest.drop 2) ((c, d) :: acc)
      | none => bracket false rest ((c, c) :: acc)
termination_by _ s _ => s.length

/-- A bracket expression behind its opening bracket: whether it is negated, its members, and what follows. -/
def bracket? (p : List Marked) : Option (Bool × List (Char × Char) × List Marked) :=
  match p with
  | ('!', false) :: rest => (bracket true rest []).map fun (ranges, after) => (true, ranges, after)
  | ('^', false) :: rest => (bracket true rest []).map fun (ranges, after) => (true, ranges, after)
  | rest => (bracket true rest []).map fun (ranges, after) => (false, ranges, after)

/-- Whether a pattern matches a whole text. `fuel` bounds the length of both. -/
def matchesIn : Nat → List Marked → Octets → Bool
  | 0, _, _ => false
  | _ + 1, [], s => s.isEmpty
  | fuel + 1, (c, q) :: p, s =>
    if c = '*' ∧ !q then
      matchesIn fuel p s || (match s with
        | [] => false
        | _ :: rest => matchesIn fuel ((c, q) :: p) rest)
    else
      match s with
      | [] => false
      | d :: rest =>
        if c = '?' ∧ !q then matchesIn fuel p rest
        else if c = '[' ∧ !q then
          match bracket? p with
          | some (negated, ranges, after) =>
            ((ranges.any fun (low, high) => low ≤ d && d ≤ high) != negated) && matchesIn fuel after rest
          | none => c = d && matchesIn fuel p rest
        else c = d && matchesIn fuel p rest

/-- Whether a pattern matches a whole text. -/
def accepts (p : List Marked) (s : Octets) : Bool :=
  matchesIn (p.length + s.length + 1) p s

/-- Whether a text has a character that is special in patterns. -/
def isPattern (p : List Marked) : Bool :=
  p.any fun (c, q) => !q && ['*', '?', '['].contains c

/-- The lengths from which the match of a trim is taken, in the order of preference. -/
def lengths (longest : Bool) (n : Nat) : List Nat :=
  if longest then (List.range (n + 1)).reverse else List.range (n + 1)

/-- A text without the match of a pattern at its front or its end. -/
def trim (front longest : Bool) (p : List Marked) (s : Octets) : Octets :=
  let hit (n : Nat) : Bool := if front then accepts p (s.take n) else accepts p (s.drop (s.length - n))
  match (lengths longest s.length).find? hit with
  | none => s
  | some n => if front then s.drop n else s.take (s.length - n)

/-- Splits a pattern at its slashes. -/
def splitSlash : List Marked → List (List Marked)
  | [] => [[]]
  | (c, q) :: rest =>
    match splitSlash rest with
    | [] => [[(c, q)]]
    | part :: parts => if c = '/' then [] :: part :: parts else ((c, q) :: part) :: parts

/-- The paths that begin with `base` and go on as the parts say. -/
def expandParts (t : Tree) (cwd : Place) : List (List Marked) → Octets → List Octets
  | [], base => [base]
  | part :: parts, base =>
    let tail (name : Octets) : Octets := base ++ name
    let go (name : Octets) : List Octets :=
      if parts.isEmpty then [tail name] else expandParts t cwd parts (tail name ++ ['/'])
    if isPattern part then
      let directory : Path := ⟨if base = [] then [Path.dot] else Octets.toBytes base⟩
      let names := ((t.names cwd directory).getD []).map Octets.ofBytes
      let hidden := part.head?.any fun (c, _) => c = '.'
      (names.filter fun name => accepts part name && (hidden || name.head? ≠ some '.')).flatMap go
    else go (part.map Prod.fst)

/-- The existing paths that a pattern stands for, sorted. -/
def paths (t : Tree) (cwd : Place) (p : List Marked) : List Octets :=
  let found := expandParts t cwd (splitSlash p) []
  let isThere (o : Octets) : Bool :=
    (t.locate cwd false ⟨Octets.toBytes o⟩).toOption.any fun place => (t.at? place).isSome
  (found.filter isThere).mergeSort
    Octets.le

end Pattern

end QueryGateway.Shell
