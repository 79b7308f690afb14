import QueryGateway.Shell.Machine

/-!
# Conditions

What `test` says of its arguments: about texts, numbers and files.
-/

namespace QueryGateway.Shell

namespace Condition

/-- The path that octets name. -/
def path (o : Octets) : Path := ⟨Octets.toBytes o⟩

/-- What a path leads to, links followed. -/
def node? (st : State) (o : Octets) : Option Node :=
  ((st.machine.tree.find st.shell.cwd (path o)).toOption).map Prod.snd

/-- What a path names, a link at its end not followed. -/
def linkNode? (st : State) (o : Octets) : Option Node :=
  match st.machine.tree.locate st.shell.cwd false (path o) with
  | .ok place => st.machine.tree.at? place
  | .error _ => none

/-- A condition on one argument; nothing when there is no such condition. -/
def unary? (st : State) (op : String) (a : Octets) : Option Bool :=
  match op with
  | "-n" => some (a ≠ [])
  | "-z" => some (a = [])
  | "-e" => some (node? st a).isSome
  | "-f" => some ((node? st a).any fun n => n matches .file _ _)
  | "-d" => some ((node? st a).any fun n => n matches .directory)
  | "-r" => some (node? st a).isSome
  | "-w" => some (node? st a).isSome
  | "-x" => some ((node? st a).any fun
      | .file _ mode => mode &&& 0o111 ≠ 0
      | .directory => true
      | _ => false)
  | "-s" => some ((node? st a).any fun
      | .file content _ => content ≠ []
      | .directory => true
      | _ => false)
  | "-L" => some ((linkNode? st a).any fun n => n matches .link _)
  | "-h" => some ((linkNode? st a).any fun n => n matches .link _)
  | "-c" => some ((node? st a).any fun n => n matches .device _)
  | "-b" => some false
  | "-p" => some false
  | "-S" => some false
  | "-u" => some false
  | "-g" => some false
  | "-k" => some false
  | "-t" => some false
  | _ => none

/-- A number among the arguments. -/
def number (a : Octets) : Except Octets Int :=
  match Octets.int? (a.filter fun c => c ≠ ' ') with
  | some n => .ok n
  | none => .error ("Illegal number: ".toList ++ a)

/-- A condition on two arguments; nothing when there is no such condition. -/
def binary? (op : String) (a b : Octets) : Option (Except Octets Bool) :=
  let compare (f : Int → Int → Bool) : Option (Except Octets Bool) :=
    some (match number a, number b with
      | .ok x, .ok y => .ok (f x y)
      | .error m, _ => .error m
      | _, .error m => .error m)
  match op with
  | "=" => some (.ok (a = b))
  | "!=" => some (.ok (a ≠ b))
  | "<" => some (.ok (Octets.le a b && a ≠ b))
  | ">" => some (.ok (Octets.le b a && a ≠ b))
  | "-eq" => compare fun x y => x = y
  | "-ne" => compare fun x y => x ≠ y
  | "-lt" => compare fun x y => x < y
  | "-le" => compare fun x y => x ≤ y
  | "-gt" => compare fun x y => x > y
  | "-ge" => compare fun x y => x ≥ y
  | _ => none

/-- The negation of an outcome. -/
def negate (outcome : Except Octets Bool) : Except Octets Bool :=
  outcome.map (!·)

/-- The truth of a list of arguments. `fuel` bounds its length. -/
def holds (st : State) : Nat → List Octets → Except Octets Bool
  | 0, _ => .error "too many arguments".toList
  | _ + 1, [] => .ok false
  | _ + 1, [a] => .ok (a ≠ [])
  | fuel + 1, [a, b] =>
    if a = ['!'] then negate (holds st fuel [b])
    else
      match unary? st (String.ofList a) b with
      | some v => .ok v
      | none => .error (a ++ ": unexpected operator".toList)
  | fuel + 1, a :: b :: c :: rest =>
    let all := a :: b :: c :: rest
    match rest, binary? (String.ofList b) a c with
    | [], some outcome => outcome
    | _, _ =>
      let split (op : String) : Option (List Octets × List Octets) :=
        let left := all.takeWhile (· ≠ op.toList)
        match all.dropWhile (· ≠ op.toList) with
        | _ :: right => some (left, right)
        | [] => none
      match split "-o" with
      | some (left, right) => do
        let x ← holds st fuel left
        let y ← holds st fuel right
        .ok (x || y)
      | none =>
        match split "-a" with
        | some (left, right) => do
          let x ← holds st fuel left
          let y ← holds st fuel right
          .ok (x && y)
        | none =>
          if a = ['!'] then negate (holds st fuel (b :: c :: rest))
          else if a = ['('] ∧ all.getLast? = some [')'] then holds st fuel (all.drop 1).dropLast
          else .error (a ++ ": unexpected operator".toList)

end Condition

end QueryGateway.Shell
