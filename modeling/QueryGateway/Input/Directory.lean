import QueryGateway.Input.Lease

/-!
# The directory of inputs

Each request's document is written to a file of its own, named after the request. The file is created anew, so that two
requests never share one; a name that could lead elsewhere is refused before anything is touched; and when writing fails
half-way the file goes away with its lease.
-/

namespace QueryGateway

/-- Where inputs are kept. -/
structure InputDirectory where
  path : Path
deriving DecidableEq, Repr, Inhabited

/-- What the operating system may refuse while an input is being written. A write may fail after some bytes are down, and
the directory may fail to be made after those it lies in were, from so many components up. -/
structure Trouble where
  makeDirectory : Option (Nat × FileFault) := none
  create : Option FileFault := none
  write : Option (Nat × FileFault) := none
  flush : Option FileFault := none
deriving DecidableEq, Repr, Inhabited

namespace InputDirectory

/-- The name of the directory unless the settings say otherwise. -/
def standardName : String := "jqlite-gateway"

/-- Whether a character may stand in the name of a request: an ASCII letter or digit, a hyphen or an underscore. -/
def isSafeChar (c : Char) : Bool :=
  c.isAlphanum || c = '-' || c = '_'

/-- Whether a request's name may become a file's name. -/
def isSafeId (id : String) : Bool :=
  id ≠ "" && id.toList.all isSafeChar

/-- The name of a request's file. -/
def fileName (id : String) : String := "input-" ++ id ++ ".json"

/-- The path of a request's file. -/
def pathFor (d : InputDirectory) (id : String) : Path :=
  d.path.join (.ofString (fileName id))

/-- Writes a document into a file just created. A fault comes with the tree as it is after a partial write. -/
def fill (trouble : Trouble) (cwd : Place) (path : Path) (document : Bytes) (t : Tree) :
    Except (FileFault × Tree) Tree :=
  match trouble.write with
  | some (count, fault) =>
    match t.write cwd path (document.take count) with
    | .ok t => .error (fault, t)
    | .error _ => .error (fault, t)
  | none =>
    match t.write cwd path document with
    | .error fault => .error (fault, t)
    | .ok t =>
      match trouble.flush with
      | some fault => .error (fault, t)
      | none => .ok t

/-- Makes the directory of inputs. -/
def prepare (d : InputDirectory) (cwd : Place) (trouble : Trouble) (t : Tree) : Option FileFault × Tree :=
  match trouble.makeDirectory with
  | some (missing, fault) =>
    match Tree.ancestor? missing d.path with
    | some above => (some fault, (t.makeAll cwd above).2)
    | none => (some fault, t)
  | none => t.makeAll cwd d.path

/-- Creates the file of a request, empty. -/
def createFile (cwd : Place) (trouble : Trouble) (path : Path) (t : Tree) : Except FileFault Tree :=
  match trouble.create with
  | some fault => .error fault
  | none => t.create cwd path []

/-- Provides the input of a request. The tree comes back in every case: after a failure it holds the files it held
before. -/
def acquire (d : InputDirectory) (cwd : Place) (trouble : Trouble) (id : String) (document : String) (t : Tree) :
    Except StoreFault Lease × Tree :=
  if !isSafeId id then (.error (.unsafeId id), t)
  else
    match d.prepare cwd trouble t with
    | (some fault, t) => (.error (.io fault), t)
    | (none, t) =>
      let path := d.pathFor id
      match createFile cwd trouble path t with
      | .error fault => (.error (.io fault), t)
      | .ok t =>
        let lease : Lease := { id := id, path := path }
        match fill trouble cwd path (Text.encode document) t with
        | .error (fault, t) => (.error (.io fault), lease.drop cwd t)
        | .ok t => (.ok lease, t)

/-- Ends a lease: its file is removed, if it is still there, and the lease is closed whether or not that succeeded. -/
def release (cwd : Place) (lease : Lease) (t : Tree) : Lease × Tree :=
  (lease.close, lease.removeFile cwd t)

end InputDirectory

end QueryGateway
