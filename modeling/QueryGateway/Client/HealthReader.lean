import QueryGateway.Gateway.Health
import QueryGateway.Json.Passing
import QueryGateway.Json.Shape

/-!
# Reading a health report

A report is an object in which each of the five keys occurs exactly once, anything else being ignored, or a list of
the five values in their order.
-/

namespace QueryGateway.Health

open Json (Flaw Source)

/-- A truth value. -/
def readBool (s : Source) : Except Flaw (Bool × Source) :=
  match s.skipGap with
  | [] => .error .truncated
  | .broken _ :: _ => .error .malformed
  | .char c :: rest =>
    if c = 't' then (Source.word ['r', 'u', 'e'] rest).map fun after => (true, after)
    else if c = 'f' then (Source.word ['a', 'l', 's', 'e'] rest).map fun after => (false, after)
    else .error (Json.unwanted (.char c :: rest))

/-- A string. -/
def readText (s : Source) : Except Flaw (String × Source) :=
  match s.skipGap with
  | [] => .error .truncated
  | .broken _ :: _ => .error .malformed
  | .char c :: rest => if c = '"' then Json.string rest else .error (Json.unwanted (.char c :: rest))

/-- The fields met so far. -/
structure Fields where
  status : Option String := none
  queryAvailable : Option Bool := none
  queryPath : Option String := none
  visualizationAvailable : Option Bool := none
  visualizationPath : Option String := none

/-- The report with the fields met; all must be there. -/
def Fields.report (f : Fields) : Except Flaw Health :=
  match f.status, f.queryAvailable, f.queryPath, f.visualizationAvailable, f.visualizationPath with
  | some status, some available, some path, some traces, some tracePath =>
    .ok ⟨status, available, path, traces, tracePath⟩
  | _, _, _, _, _ => .error .mistyped

/-- Takes in the value of a key, which must be new. -/
def field {α : Type} (met : Option α) (read : Source → Except Flaw (α × Source)) (put : α → Fields)
    (s : Source) : Except Flaw (Fields × Source) :=
  if met.isSome then .error .mistyped
  else do
    let s ← s.colon
    let (v, rest) ← read s
    .ok (put v, rest)

/-- The member whose key has been read. -/
def member (moves : Nat) (key : String) (f : Fields) (s : Source) : Except Flaw (Fields × Source) :=
  match key with
  | "status" => field f.status readText (fun v => { f with status := some v }) s
  | "jqlite_available" => field f.queryAvailable readBool (fun v => { f with queryAvailable := some v }) s
  | "jqlite_path" => field f.queryPath readText (fun v => { f with queryPath := some v }) s
  | "visualization_available" =>
    field f.visualizationAvailable readBool (fun v => { f with visualizationAvailable := some v }) s
  | "visualization_path" => field f.visualizationPath readText (fun v => { f with visualizationPath := some v }) s
  | _ => do
    let s ← s.colon
    let rest ← Json.passValue moves s
    .ok (f, rest)

/-- The members of the object form. `fuel` bounds their number. -/
def members (moves : Nat) : Nat → Bool → Fields → Source → Except Flaw (Health × Source)
  | 0, _, _, _ => .error .truncated
  | fuel + 1, first, f, s =>
    match s.nextKey first with
    | .error flaw => .error flaw
    | .ok (.inr rest) => f.report.map fun h => (h, rest)
    | .ok (.inl s) =>
      match Json.string s with
      | .error flaw => .error flaw
      | .ok (key, s) =>
        match member moves key f s with
        | .error flaw => .error flaw
        | .ok (f, rest) => members moves fuel false f rest

/-- The next value of the list form, which must be there. -/
def item {α : Type} (read : Source → Except Flaw (α × Source)) (first : Bool) (s : Source) :
    Except Flaw (α × Source) := do
  match ← s.nextItem first with
  | none => .error .mistyped
  | some s => read s

/-- The values of the list form. -/
def items (s : Source) : Except Flaw (Health × Source) := do
  let (status, s) ← item readText true s
  let (available, s) ← item readBool false s
  let (path, s) ← item readText false s
  let (traces, s) ← item readBool false s
  let (tracePath, s) ← item readText false s
  let rest ← s.closeList
  .ok (⟨status, available, path, traces, tracePath⟩, rest)

/-- The report at the front of a text, and what follows it. -/
def read (s : Source) : Except Flaw (Health × Source) :=
  match s.skipGap with
  | [] => .error .truncated
  | p :: rest =>
    if p = .char '[' then items rest
    else if p = .char '\x7b' then members (Json.passingMoves s.length) (s.length + 1) true {} rest
    else .error (Json.unwanted (p :: rest))

/-- The report that a byte string holds and nothing else. -/
def parse (bytes : Bytes) : Except Flaw Health := do
  let (report, rest) ← read (Text.segments bytes)
  rest.ended
  .ok report

end QueryGateway.Health
