import QueryGateway.Client.Printout
import QueryGateway.Http.Wire
import Std.Async.TCP
import Std.Async.DNS

/-!
# The client as a program

Reads the arguments, the one file it may need and the address of the gateway, makes one exchange over the network, and
prints what comes of it. The program ends with 0 when it has something to show, with 1 when it has not, and with 2
when its arguments make no sense.
-/

open Std.Async Std.Net

namespace QueryGateway.Client

/-- The address of a host: its numbers as they are, any other name as the network knows it. -/
def resolve (host : String) : IO (Option IPAddr) := do
  match IPv4Addr.ofString host with
  | some address => return some (.v4 address)
  | none =>
    let found ← (DNS.getAddrInfo host "" (some .ipv4)).block
    return found[0]?

/-- Everything that a connection gives until its other side closes it. -/
partial def receive (socket : TCP.Socket.Client) (got : ByteArray) : IO ByteArray := do
  match ← (socket.recv? 65536).block with
  | some bytes => receive socket (got ++ bytes)
  | none => return got

/-- Makes an exchange over a connection of its own; nothing when the gateway is not reached. -/
def exchange (call : Call) : IO (Option Http.Response) := do
  match Http.Url.ofString? call.url with
  | none => return none
  | some url =>
    try
      match ← resolve url.host with
      | some (.v4 address) =>
        let headers := if call.body.isSome then [("content-type", "application/json")] else []
        let request : Http.Request :=
          { method := call.method, target := url.target, headers := headers, body := Text.encode (call.body.getD "") }
        let socket ← TCP.Socket.Client.mk
        (socket.connect (.v4 ⟨address, UInt16.ofNat url.port⟩)).block
        (socket.send ⟨(request.wire url).toArray⟩).block
        return Http.Response.ofWire? (← receive socket .empty).toList
      | _ => return none
    catch _ => return none

/-- The document that an order needs, or why it cannot be had. -/
def provide : Provision → IO (Except Failure String)
  | .literal document => return .ok document
  | .file path => do
    try
      match Text.decode? (← IO.FS.readBinFile path).toList with
      | some document => return .ok document
      | none => return .error (.unreadableFile path)
    catch _ => return .error (.unreadableFile path)

/-- Carries out an order. -/
def carryOut (order : Order) : IO Printout := do
  match ← (order.provision?.map provide).getD (return .ok "") with
  | .ok document => return order.printout (← exchange (order.call document))
  | .error failure => return order.failed failure

end QueryGateway.Client

open QueryGateway.Client in
/-- The client. -/
def main (arguments : List String) : IO UInt32 := do
  let preset ← IO.getEnv "JQLITE_URL"
  match Arguments.read preset arguments with
  | .tell text =>
    IO.print text
    return 0
  | .misuse =>
    IO.eprint (Arguments.clientHelp preset)
    return 2
  | .order order =>
    let printout ← carryOut order
    IO.print printout.out
    IO.eprint printout.err
    return if printout.success then 0 else 1
