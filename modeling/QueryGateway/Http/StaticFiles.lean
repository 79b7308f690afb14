import QueryGateway.Files.Tree
import QueryGateway.Http.ByteRange
import QueryGateway.Http.Date
import QueryGateway.Http.Extension
import QueryGateway.Http.Message

/-!
# Static files

A directory whose files can be fetched, whole or in part. A path may not climb out of it; a directory answers with its
index, under a path that ends in a slash. A request may set conditions on the time of the last change.
-/

namespace QueryGateway.Http

/-- The value of a hexadecimal digit. -/
def hexByte? (b : UInt8) : Option UInt8 :=
  if 0x30 ≤ b ∧ b ≤ 0x39 then some (b - 0x30)
  else if 0x41 ≤ b ∧ b ≤ 0x46 then some (b - 0x41 + 10)
  else if 0x61 ≤ b ∧ b ≤ 0x66 then some (b - 0x61 + 10)
  else none

/-- The bytes of a path with its escapes undone: a percent sign and two hexadecimal digits are one byte, any other
percent sign stands for itself. -/
def percentDecode : Bytes → Bytes
  | 0x25 :: a :: b :: rest =>
    match hexByte? a, hexByte? b with
    | some high, some low => (high * 16 + low) :: percentDecode rest
    | _, _ => 0x25 :: percentDecode (a :: b :: rest)
  | b :: rest => b :: percentDecode rest
  | [] => []

namespace StaticFiles

/-- The names on the way to the wanted file, unless the path could lead out of the directory or is no text. -/
def names? (path : String) : Option (List Bytes) :=
  let inner := (Text.encode path).dropWhile (· = Path.slash)
  match Text.decode? (percentDecode inner) with
  | none => none
  | some text =>
    let parts := (Path.ofString text).components.filter (· ≠ .current)
    parts.mapM fun
      | .name name => some name
      | _ => none

/-- The moment that a header of a request names, in seconds since the start of 1970. -/
def moment? (r : Request) (name : String) : Option Nat :=
  ((r.header? name).bind Date.ofString?).map Date.seconds

/-- The status of a request whose conditions a file that was last changed at some moment does not meet. -/
def unmet? (changed : Nat) (r : Request) : Option Nat :=
  if (moment? r "if-unmodified-since").any (· < changed) then some 412
  else if (moment? r "if-modified-since").any (changed ≤ ·) then some 304
  else none

/-- The ranges that a request asks for, in the words of its header; words that cannot be shown are not heard. -/
def range? (r : Request) : Option String :=
  (r.header? "range").filter fun value => value.toList.all fun c => c = '\t' || (32 ≤ c.toNat && c.toNat < 127)

/-- The response with a file, or with the one part of it that is wanted. -/
def content (changed : Nat) (r : Request) (name content : Bytes) : Response :=
  let headers := [("content-type", Extension.mediaTypeOf (Text.lossy name))]
  match unmet? changed r, range? r with
  | some status, _ => .empty status []
  | none, none => { status := 200, headers := headers, body := content }
  | none, some value =>
    match ByteRange.wanted? content.length value with
    | none => .empty 416 headers
    | some [range] => { status := 206, headers := headers, body := range.slice content }
    | some _ => { status := 416, headers := headers, body := Text.encode "Cannot serve multipart range requests" }

/-- The response with the file at a path. -/
def file (t : Tree) (changed : Nat) (r : Request) (path : Path) (name : Bytes) : Response :=
  match t.find [] path with
  | .ok (_, .file bytes _) => content changed r name bytes
  | .error (.other _) => .empty 500 []
  | .error (.os error) =>
    if error = .notFound ∨ error = .denied ∨ error = .notDirectory then .empty 404 [] else .empty 500 []
  | .ok _ => .empty 500 []

/-- The name of the file that stands for its directory. -/
def index : Bytes := Text.encode "index.html"

/-- Answers a request for a file under a directory, whose files were last changed at some moment. -/
def serve (t : Tree) (changed : Nat) (directory : Path) (r : Request) : Response :=
  if r.method ≠ "GET" ∧ r.method ≠ "HEAD" then .empty 405 [("allow", "GET,HEAD")]
  else
    match names? r.path with
    | none => .empty 404 []
    | some names =>
      let path := names.foldl (fun p name => p.join ⟨name⟩) directory
      let name := (names.getLast?).getD []
      if t.isDirectory [] path then
        if r.path.toList.getLast? = some '/' then file t changed r (path.join ⟨index⟩) index
        else .empty 307 [("location", (Target.ofString r.target).withSlash.render)]
      else file t changed r path name

end StaticFiles

end QueryGateway.Http
