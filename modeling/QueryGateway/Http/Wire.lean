import QueryGateway.Http.Message
import QueryGateway.Text.Blank

/-!
# Messages on the wire

The bytes of a request as a client sends them over a connection of its own, and the response that a server's bytes
make. A response ends with its connection, with the length it declares, or with an empty chunk.
-/

namespace QueryGateway.Http

/-- Where a server is: a host and a port, and the target asked for there. -/
structure Url where
  host : String
  port : Nat
  target : String
deriving DecidableEq, Repr, Inhabited

namespace Url

/-- What the addresses of servers start with. -/
def scheme : String := "http://"

/-- Reads an address; the port is 80 unless it is named. -/
def ofString? (s : String) : Option Url :=
  if !s.startsWith scheme then none
  else
    let rest := s.toList.drop scheme.length
    let authority := rest.takeWhile fun c => c ≠ '/' && c ≠ '?'
    let target := rest.drop authority.length
    let host := String.ofList (authority.takeWhile (· ≠ ':'))
    let target := String.ofList (if target.head? = some '/' then target else '/' :: target)
    match authority.dropWhile (· ≠ ':') with
    | [] => if host = "" then none else some ⟨host, 80, target⟩
    | _ :: digits =>
      if host = "" then none
      else ((String.ofList digits).toNat?.filter (· < UInt16.size)).map fun port => ⟨host, port, target⟩

end Url

/-- The bytes of a request to a server. -/
def Request.wire (r : Request) (url : Url) : Bytes :=
  let headers := ("host", url.host ++ ":" ++ Nat.repr url.port) :: r.headers ++
    [("connection", "close"), ("content-length", Nat.repr r.body.length)]
  let head := r.method ++ " " ++ r.target ++ " HTTP/1.1\r\n" ++
    String.join (headers.map fun (name, value) => name ++ ": " ++ value ++ "\r\n") ++ "\r\n"
  Text.encode head ++ r.body

namespace Wire

/-- A text up to its first line end, and what follows it. -/
def takeLine : Bytes → Bytes → Option (Bytes × Bytes)
  | _, [] => none
  | acc, b :: rest =>
    if b = 10 then
      let line := acc.reverse
      some (if line.getLast? = some 13 then line.dropLast else line, rest)
    else takeLine (b :: acc) rest

/-- The headers up to the empty line, and what follows it. `fuel` bounds their number. -/
def takeHeaders : Nat → List Header → Bytes → Option (List Header × Bytes)
  | 0, _, _ => none
  | fuel + 1, acc, bytes =>
    match takeLine [] bytes with
    | none => none
    | some ([], rest) => some (acc.reverse, rest)
    | some (line, rest) =>
      let name := line.takeWhile (· ≠ 58)
      let value := Text.trim (Text.lossy (line.drop (name.length + 1)))
      takeHeaders fuel ((Text.lowerAscii (Text.lossy name), value) :: acc) rest

/-- The number that hexadecimal digits at the front of a line make. -/
def hexadecimal (line : Bytes) : Nat :=
  let digit? (b : UInt8) : Option Nat :=
    if 48 ≤ b ∧ b ≤ 57 then some (b.toNat - 48)
    else if 97 ≤ b ∧ b ≤ 102 then some (b.toNat - 87)
    else if 65 ≤ b ∧ b ≤ 70 then some (b.toNat - 55)
    else none
  (line.takeWhile fun b => (digit? b).isSome).foldl (fun n b => n * 16 + (digit? b).getD 0) 0

/-- The body that chunks make. `fuel` bounds their number. -/
def unchunk : Nat → Bytes → Option Bytes
  | 0, _ => none
  | fuel + 1, bytes =>
    match takeLine [] bytes with
    | none => none
    | some (line, rest) =>
      let size := hexadecimal line
      if size = 0 then some []
      else if rest.length < size then none
      else (unchunk fuel (rest.drop (size + 2))).map (rest.take size ++ ·)

/-- The body behind the headers of a response. -/
def body? (headers : List Header) (rest : Bytes) : Option Bytes :=
  if (headers.lookup "transfer-encoding").any (Text.lowerAscii · = "chunked") then unchunk (rest.length + 1) rest
  else
    match (headers.lookup "content-length").bind String.toNat? with
    | some n => if rest.length < n then none else some (rest.take n)
    | none => some rest

/-- The status that the first line of a response tells. -/
def status? (line : Bytes) : Option Nat :=
  let text := Text.lossy line
  if text.startsWith "HTTP/1." then ((text.splitOn " ")[1]?).bind String.toNat? else none

end Wire

/-- The response that bytes make, if they make a whole one. -/
def Response.ofWire? (bytes : Bytes) : Option Response := do
  let (line, rest) ← Wire.takeLine [] bytes
  let status ← Wire.status? line
  let (headers, rest) ← Wire.takeHeaders (rest.length + 1) [] rest
  let body ← Wire.body? headers rest
  some { status := status, headers := headers, body := body }

end QueryGateway.Http
