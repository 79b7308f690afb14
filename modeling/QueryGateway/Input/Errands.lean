import QueryGateway.Input.Directory

/-!
# Requests that are given up half-way

A request does not touch the files itself. It hands each operation over and waits for the answer, and may be given up at
any moment in between. An operation that was handed over is carried out all the same; nobody hears how it ended. A
request that is never given up comes to what `InputDirectory.acquire` and `InputDirectory.release` say.
-/

namespace QueryGateway

/-- What a request brings: its name, its document, and what the operating system will refuse it. -/
structure Errand where
  id : String
  document : String
  trouble : Trouble := {}
deriving DecidableEq, Repr, Inhabited

namespace Errand

/-- The operations on files that are handed over. -/
inductive Job where
  | prepare
  | create
  | write
  | flush
  | remove
deriving DecidableEq, Repr, Inhabited

/-- Whether the request that asks for an operation has a lease by then. It has one as soon as it has heard that its file
was created. -/
def Job.leased : Job → Bool
  | .prepare => false
  | .create => false
  | .write => true
  | .flush => true
  | .remove => true

/-- Whether an operation goes by the name of a file, or to a file that is open. -/
def Job.byName : Job → Bool
  | .prepare => true
  | .create => true
  | .write => false
  | .flush => false
  | .remove => true

/-- Where a request stands. -/
inductive Progress where
  /-- Not begun. -/
  | fresh
  /-- An operation was handed over. -/
  | waiting (job : Job)
  /-- The operation was carried out, with this fault if with any; the request has not heard of it. -/
  | answered (job : Job) (fault? : Option FileFault)
  /-- Its input is there, and its engine runs. -/
  | serving
  /-- Its input was released. -/
  | finished
  /-- Its input could not be provided. -/
  | refused (fault : StoreFault)
  /-- Given up while it waited for an operation that has still to be carried out. -/
  | adrift (job : Job)
  /-- Given up; nothing is under way any more. -/
  | gone
deriving DecidableEq, Repr, Inhabited

namespace Progress

/-- Whether a request has a lease that is open. -/
def leased : Progress → Bool
  | waiting job => job.leased
  | answered job _ => job.leased
  | serving => true
  | _ => false

/-- Where a request stands that is given up; one that is over stays so. -/
def abandoned : Progress → Progress
  | waiting job => adrift job
  | fresh => gone
  | answered _ _ => gone
  | serving => gone
  | progress => progress

/-- Whether a file may be there that the request has not heard of, now or in time. -/
def creating : Progress → Bool
  | waiting .create => true
  | answered .create none => true
  | _ => false

end Progress

section
variable (d : InputDirectory) (cwd : Place) (e : Errand)

/-- The lease of a request on its input. -/
def lease : Lease := { id := e.id, path := d.pathFor e.id }

/-- What is written for a request: its document, or as much of it as the operating system takes. -/
def written : Bytes :=
  match e.trouble.write with
  | some (count, _) => (Text.encode e.document).take count
  | none => Text.encode e.document

/-- Writes the document. -/
def writeDocument (t : Tree) : Option FileFault × Tree :=
  match t.write cwd (d.pathFor e.id) e.written with
  | .ok t => (e.trouble.write.map Prod.snd, t)
  | .error fault => (some ((e.trouble.write.map Prod.snd).getD fault), t)

/-- Carries out an operation. -/
def carryOut (job : Job) (t : Tree) : Option FileFault × Tree :=
  match job with
  | .prepare => d.prepare cwd e.trouble t
  | .create =>
    match InputDirectory.createFile cwd e.trouble (d.pathFor e.id) t with
    | .ok t => (none, t)
    | .error fault => (some fault, t)
  | .write => e.writeDocument d cwd t
  | .flush => (e.trouble.flush, t)
  | .remove => (none, (e.lease d).removeFile cwd t)

/-- A request begins, or hears of the operation it waited for. A fault ends it, and a lease it has is dropped. -/
def goOn (progress : Progress) (t : Tree) : Progress × Tree :=
  match progress with
  | .fresh => if InputDirectory.isSafeId e.id then (.waiting .prepare, t) else (.refused (.unsafeId e.id), t)
  | .answered .remove _ => (.finished, t)
  | .answered job (some fault) => (.refused (.io fault), if job.leased then (e.lease d).drop cwd t else t)
  | .answered .prepare none => (.waiting .create, t)
  | .answered .create none => (.waiting .write, t)
  | .answered .write none => (.waiting .flush, t)
  | .answered .flush none => (.serving, t)
  | .serving => (.waiting .remove, t)
  | progress => (progress, t)

/-- The operation of a request is carried out. Of a request that was given up, only those count that go by the name of
the file: what goes to the open file goes to one that has no name any more. -/
def work (progress : Progress) (t : Tree) : Progress × Tree :=
  match progress with
  | .waiting job => (.answered job (e.carryOut d cwd job t).1, (e.carryOut d cwd job t).2)
  | .adrift job => (.gone, if job.byName then (e.carryOut d cwd job t).2 else t)
  | progress => (progress, t)

/-- A request is given up: a lease it has is dropped. -/
def giveUp (progress : Progress) (t : Tree) : Progress × Tree :=
  (progress.abandoned, if progress.leased then (e.lease d).drop cwd t else t)

end

/-- What happens to a request next. -/
inductive Turn where
  | goOn
  | work
  | giveUp
deriving DecidableEq, Repr, Inhabited

/-- One turn of a request. -/
def take (d : InputDirectory) (cwd : Place) (e : Errand) : Turn → Progress → Tree → Progress × Tree
  | .goOn => e.goOn d cwd
  | .work => e.work d cwd
  | .giveUp => e.giveUp d cwd

/-- Turns of one request, with nobody else's in between. -/
def takes (d : InputDirectory) (cwd : Place) (e : Errand) (turns : List Turn) (now : Progress × Tree) :
    Progress × Tree :=
  turns.foldl (fun now turn => e.take d cwd turn now.1 now.2) now

/-- A turn of one request out of many. -/
structure Act where
  who : Nat
  turn : Turn
deriving DecidableEq, Repr, Inhabited

/-- The files, and where each request stands. -/
structure Course where
  tree : Tree
  progress : Nat → Progress := fun _ => .fresh

namespace Course

/-- One act. -/
def step (d : InputDirectory) (cwd : Place) (errands : Nat → Errand) (c : Course) (act : Act) : Course :=
  let (progress, tree) := (errands act.who).take d cwd act.turn (c.progress act.who) c.tree
  { tree := tree, progress := fun i => if i = act.who then progress else c.progress i }

/-- Any acts, one after the other, from files that no request has touched. -/
def run (d : InputDirectory) (cwd : Place) (errands : Nat → Errand) (initial : Tree) (acts : List Act) : Course :=
  acts.foldl (step d cwd errands) { tree := initial }

end Course
end Errand
end QueryGateway
