import QueryGateway.Files.Errno
import QueryGateway.Files.Path

/-!
# The file system

Files, directories and symbolic links by their place under the root, and the operations on them that the gateway and
its engines use. A path is walked one part at a time: links are followed, at most forty of them, and each part but the
last must be a directory. The caller is taken to be allowed everything.
-/

namespace QueryGateway

/-- A failed operation on files: an error of the operating system, or a text of its own. -/
inductive FileFault where
  | os (error : Errno)
  | other (text : String)
deriving DecidableEq, Repr, Inhabited

namespace FileFault

/-- The wording of a failure. -/
def message : FileFault → String
  | os error => error.message
  | other text => text

/-- A path that holds a zero byte cannot be handed to the operating system. -/
def zeroByte : FileFault := other "file name contained an unexpected NUL byte"

end FileFault

/-- What stands at a place: a file with its content and permission bits, a directory, a link to a path, or a device. -/
inductive Node where
  | file (content : Bytes) (mode : Nat)
  | directory
  | link (target : Path)
  | device (number : Nat)
deriving DecidableEq, Repr, Inhabited

/-- A place under the root: the names on the way, the last one first. -/
abbrev Place := List Bytes

/-- The file system; the root is always a directory. -/
structure Tree where
  nodes : List (Place × Node) := []
deriving DecidableEq, Repr, Inhabited

namespace Tree

/-- What stands at a place. -/
def at? (t : Tree) (place : Place) : Option Node :=
  if place = [] then some .directory else t.nodes.lookup place

/-- Puts something at a place, in the stead of what was there. -/
def put (t : Tree) (place : Place) (node : Node) : Tree :=
  { nodes := (place, node) :: t.nodes.filter fun (p, _) => p ≠ place }

/-- Takes away what stands at a place. -/
def take (t : Tree) (place : Place) : Tree :=
  { nodes := t.nodes.filter fun (p, _) => p ≠ place }

/-! ## From paths to places -/

/-- The longest name of one part. -/
def maxName : Nat := 255

/-- The longest path, its end mark included. -/
def maxPath : Nat := 4096

/-- How many links one walk follows. -/
def maxLinks : Nat := 40

/-- The parts of a path as they are walked: a slash at the end asks for a directory, as `.` does. -/
def steps (p : Path) : List Path.Component :=
  let parts := Path.stretches p.bytes
  let named := parts.filterMap fun part => if part = [Path.dot] then some .current else Path.component? part
  let closed := if p.bytes.getLast? = some Path.slash then named ++ [.current] else named
  if p.isAbsolute then .root :: closed else closed

/-- Walks the parts of a path from a directory. `follow` says whether a link at the very end is followed; `beyond`
goes on behind a link. The last name need not exist. -/
def walkFrom (t : Tree) (follow : Bool) (beyond : Place → List Path.Component → Except Errno Place) :
    Place → List Path.Component → Except Errno Place
  | here, [] => .ok here
  | _, .root :: rest => walkFrom t follow beyond [] rest
  | here, .current :: rest => walkFrom t follow beyond here rest
  | here, .parent :: rest => walkFrom t follow beyond here.tail rest
  | here, .name part :: rest =>
    if maxName < part.length then .error .nameTooLong
    else
      let there := part :: here
      match t.at? there with
      | some (.link target) =>
        if rest = [] ∧ !follow then .ok there
        else if target.bytes = [] then .error .notFound
        else beyond here (steps target ++ rest)
      | some .directory => walkFrom t follow beyond there rest
      | some _ => if rest = [] then .ok there else .error .notDirectory
      | none => if rest = [] then .ok there else .error .notFound

/-- Walks the parts of a path, following at most so many links. -/
def walk (t : Tree) (follow : Bool) : Nat → Place → List Path.Component → Except Errno Place
  | 0 => walkFrom t follow fun _ _ => .error .tooManyLinks
  | links + 1 => walkFrom t follow (walk t follow links)

/-- The place that a path names, its last name existing or not. Relative paths start from the working directory. -/
def locate (t : Tree) (cwd : Place) (follow : Bool) (p : Path) : Except FileFault Place :=
  if p.bytes.contains 0 then .error .zeroByte
  else if p.bytes = [] then .error (.os .notFound)
  else if maxPath ≤ p.bytes.length then .error (.os .nameTooLong)
  else (walk t follow maxLinks cwd (steps p)).mapError .os

/-- What a path leads to, links followed. -/
def find (t : Tree) (cwd : Place) (p : Path) : Except FileFault (Place × Node) :=
  match t.locate cwd true p with
  | .error f => .error f
  | .ok place =>
    match t.at? place with
    | some node => .ok (place, node)
    | none => .error (.os .notFound)

/-- Whether a path leads to a directory. -/
def isDirectory (t : Tree) (cwd : Place) (p : Path) : Bool :=
  match t.find cwd p with
  | .ok (_, .directory) => true
  | _ => false

/-- Whether a path leads to a file that somebody may execute. -/
def isProgram (t : Tree) (cwd : Place) (p : Path) : Bool :=
  match t.find cwd p with
  | .ok (_, .file _ mode) => mode &&& 0o111 ≠ 0
  | _ => false

/-! ## Operations -/

/-- The permission bits of a new file. -/
def fileMode : Nat := 0o644

/-- The content of a file. -/
def read (t : Tree) (cwd : Place) (p : Path) : Except FileFault Bytes :=
  match t.find cwd p with
  | .error f => .error f
  | .ok (_, .file content _) => .ok content
  | .ok (_, .directory) => .error (.os .isDirectory)
  | .ok (_, .link _) => .error (.os .notFound)
  | .ok (_, .device _) => .ok []

/-- Makes a new file; whatever stands at its place already, a link too, makes it fail. -/
def create (t : Tree) (cwd : Place) (p : Path) (content : Bytes) : Except FileFault Tree :=
  match t.locate cwd false p with
  | .error f => .error f
  | .ok place =>
    if (t.at? place).isSome then .error (.os .alreadyExists) else .ok (t.put place (.file content fileMode))

/-- Gives a file its content; a file that is there keeps its permission bits. -/
def write (t : Tree) (cwd : Place) (p : Path) (content : Bytes) : Except FileFault Tree :=
  match t.locate cwd true p with
  | .error f => .error f
  | .ok place =>
    match t.at? place with
    | none => .ok (t.put place (.file content fileMode))
    | some (.file _ mode) => .ok (t.put place (.file content mode))
    | some .directory => .error (.os .isDirectory)
    | some _ => .ok t

/-- Removes a file or a link. -/
def remove (t : Tree) (cwd : Place) (p : Path) : Except FileFault Tree :=
  match t.locate cwd false p with
  | .error f => .error f
  | .ok place =>
    match t.at? place with
    | none => .error (.os .notFound)
    | some .directory => .error (.os .isDirectory)
    | some _ => .ok (t.take place)

/-- Whether a place lies at or under another. -/
def under (top place : Place) : Bool :=
  top.isSuffixOf place

/-- Removes a directory and everything under it. -/
def removeAll (t : Tree) (cwd : Place) (p : Path) : Except FileFault Tree :=
  match t.locate cwd false p with
  | .error f => .error f
  | .ok place =>
    match t.at? place with
    | none => .error (.os .notFound)
    | some .directory => .ok { nodes := t.nodes.filter fun (q, _) => !under place q }
    | some _ => .error (.os .notDirectory)

/-- Makes one directory. -/
def makeDirectory (t : Tree) (cwd : Place) (p : Path) : Except FileFault Tree :=
  let bare : Path := if p.bytes.all (· = Path.slash) then p
    else ⟨(p.bytes.reverse.dropWhile (· = Path.slash)).reverse⟩
  match t.locate cwd false bare with
  | .error f => .error f
  | .ok place =>
    if (t.at? place).isSome then .error (.os .alreadyExists) else .ok (t.put place .directory)

/-- A path without its last component; the root and the empty path have none. -/
def parent? (p : Path) : Option Path :=
  match p.components.reverse with
  | [] => none
  | [.root] => none
  | _ :: rest => some (.ofComponents rest.reverse)

/-- The path that a path lies in, so many components up. -/
def ancestor? : Nat → Path → Option Path
  | 0, p => some p
  | n + 1, p => (parent? p).bind (ancestor? n)

/-- Makes one directory; a directory that is there already will do. -/
def ensureDirectory (t : Tree) (cwd : Place) (p : Path) : Option FileFault × Tree :=
  match t.makeDirectory cwd p with
  | .ok t => (none, t)
  | .error fault => (if t.isDirectory cwd p then none else some fault, t)

/-- Makes a directory and those it lies in, as far as they are missing. `left` bounds how many. Directories made
before a failure stay. -/
def makeDirectories (cwd : Place) : Nat → Tree → Path → Option FileFault × Tree
  | 0, t, _ => (some (.os .nameTooLong), t)
  | left + 1, t, p =>
    if p.bytes = [] then (none, t)
    else
      match t.ensureDirectory cwd p with
      | (some (.os e), t) =>
        if e = .notFound then
          match parent? p with
          | none => (some (.other "failed to create whole tree"), t)
          | some parent =>
            match makeDirectories cwd left t parent with
            | (some fault, t) => (some fault, t)
            | (none, t) => t.ensureDirectory cwd p
        else (some (.os e), t)
      | outcome => outcome

/-- Makes a directory and those it lies in, as far as they are missing. -/
def makeAll (t : Tree) (cwd : Place) (p : Path) : Option FileFault × Tree :=
  makeDirectories cwd (p.components.length + 1) t p

/-- The order of byte strings. -/
def bytesLe : Bytes → Bytes → Bool
  | [], _ => true
  | _ :: _, [] => false
  | a :: as, b :: bs => if a < b then true else if b < a then false else bytesLe as bs

/-- The names in a directory, sorted; nothing when the path leads to no directory. -/
def names (t : Tree) (cwd : Place) (p : Path) : Option (List Bytes) :=
  match t.find cwd p with
  | .ok (place, .directory) =>
    let inside := t.nodes.filterMap fun (q, _) =>
      match q with
      | name :: above => if above = place then some name else none
      | [] => none
    some (inside.mergeSort bytesLe)
  | _ => none

end Tree

end QueryGateway
