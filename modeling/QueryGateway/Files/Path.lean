import QueryGateway.Text.Utf8

/-!
# Paths

A path is a byte string and is handed on as it was given. Two paths name the same place when their components agree:
repeated and trailing slashes and inner `.` parts do not count, `..` does.
-/

namespace QueryGateway

/-- A path of the file system. -/
structure Path where
  bytes : Bytes
deriving DecidableEq, Repr, Inhabited

namespace Path

/-- The byte of a slash. -/
def slash : UInt8 := 0x2F

/-- The byte of a dot. -/
def dot : UInt8 := 0x2E

/-- The path with this text. -/
def ofString (s : String) : Path := ⟨Text.encode s⟩

/-- The path as shown and as passed to an engine: bytes that are no text are replaced. -/
def display (p : Path) : String := Text.lossy p.bytes

/-- Whether a path starts at the root. -/
def isAbsolute (p : Path) : Bool := p.bytes.head? = some slash

/-- The parts of a path. -/
inductive Component where
  | root
  | current
  | parent
  | name (bytes : Bytes)
deriving DecidableEq, Repr

/-- The stretches between slashes, empty ones included. -/
def stretches : Bytes → List Bytes
  | [] => [[]]
  | b :: rest =>
    match stretches rest with
    | [] => [[b]]
    | part :: parts => if b = slash then [] :: part :: parts else (b :: part) :: parts

/-- The component of a stretch, if it has one: empty stretches and `.` have none. -/
def component? (part : Bytes) : Option Component :=
  if part = [] ∨ part = [dot] then none
  else if part = [dot, dot] then some .parent
  else some (.name part)

/-- The components of a path. A `.` counts only at the front of a relative path. -/
def components (p : Path) : List Component :=
  let parts := stretches p.bytes
  let named := parts.filterMap component?
  if p.isAbsolute then .root :: named
  else if parts.head? = some [dot] then .current :: named
  else named

/-- Whether two paths name the same place. -/
def same (p q : Path) : Bool := p.components = q.components

/-- A path inside another; an absolute path stays as it is. -/
def join (p q : Path) : Path :=
  if q.isAbsolute then q
  else if p.bytes = [] ∨ p.bytes.getLast? = some slash then ⟨p.bytes ++ q.bytes⟩
  else ⟨p.bytes ++ slash :: q.bytes⟩

/-- The bytes of a component. -/
def Component.bytes : Component → Bytes
  | root => [slash]
  | current => [dot]
  | parent => [dot, dot]
  | name part => part

/-- The path made of components, one after the other. -/
def ofComponents (cs : List Component) : Path :=
  cs.foldl (fun p c => p.join ⟨c.bytes⟩) ⟨[]⟩

/-- The path without `.` parts, repeated slashes and slashes at its end. -/
def normalize (p : Path) : Path :=
  ofComponents (p.components.filter (· ≠ .current))

end Path

end QueryGateway
