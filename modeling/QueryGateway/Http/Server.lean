import QueryGateway.Files.Errno
import QueryGateway.Http.HostName
import QueryGateway.Http.Site

/-!
# The server

A server takes an address, and then serves clients that reach it over the network until it is told to stop. Whether a
client reaches it is up to the network.
-/

namespace QueryGateway.Http

/-- An address and a port to listen on. -/
structure Address where
  ip : Ip
  port : Nat
deriving DecidableEq, Repr, Inhabited

/-- The network as a server and its clients find it. -/
structure Network where
  /-- Whether clients reach a server that listens. -/
  reachable : Bool
  names : NameBook := {}
  /-- Where others listen. -/
  busy : List Address := []
  /-- The port given to those who ask for any. -/
  free : Nat := 40000
deriving Repr, Inhabited

/-- Why no address was taken. -/
inductive BindFault where
  | os (error : Errno)
  | lookup (fault : LookupFault)
deriving DecidableEq, Repr

/-- The wording of a failed lookup or binding. -/
def BindFault.message : BindFault → String
  | os error => error.message
  | lookup fault => fault.message

namespace Network

/-- Why an address cannot be listened on: every address of four numbers can be, of the others only the one that stands
for all. -/
def refusal? (network : Network) : Ip → Option Errno
  | .v4 .. => none
  | .v6 groups interface =>
    if groups.all (· = 0) ∨ (Ip.mapped? groups).isSome then none
    else if Ip.isForGroup groups then some .invalid
    else if !Ip.isLocalToWire groups then some .addressNotAvailable
    else if interface = 0 then some .invalid
    else if network.names.interfaces.any (·.2 = interface) then some .addressNotAvailable
    else some .noDevice

/-- Takes an address; port zero asks for any free port. -/
def bind (network : Network) (host : String) (port : Nat) : Except BindFault Address :=
  match HostName.lookup network.names host with
  | .error fault => .error (.lookup fault)
  | .ok ip =>
    match network.refusal? ip with
    | some error => .error (.os error)
    | none =>
      if port = 0 then .ok ⟨ip, network.free⟩
      else if network.busy.any (fun other => other.port = port && other.ip.meets ip) then
        .error (.os .addressInUse)
      else .ok ⟨ip, port⟩

end Network

/-- The wording of a server that could not start. -/
def startError (host : String) (port : Nat) (fault : BindFault) : String :=
  "Failed to bind " ++ host ++ ":" ++ Nat.repr port ++ ": " ++ fault.message

/-- A request as a client sends it over a connection of its own: with the length of its body. -/
def Request.sent (r : Request) : Request :=
  if (r.header? "content-length").isSome then r
  else { r with headers := r.headers ++ [("content-length", Nat.repr r.body.length)] }

/-- A client's visit: the answer, or nothing when the connection failed. A server that was told to stop takes no new
connection. -/
def visit {σ : Type} (network : Network) (site : Site σ) (stopping : Bool) (r : Request) (s : σ) : Answer × σ :=
  if network.reachable && !stopping then site.serve r.sent s else (none, s)

end QueryGateway.Http
