import QueryGateway.Config.Settings
import QueryGateway.Gateway.Health
import QueryGateway.Http.Server

/-!
# Starting and stopping the gateway

The gateway reads its settings, says which engines it finds, and listens. Settings that cannot be used and an address
that cannot be taken end it with an error; otherwise it serves until it is told to stop.
-/

namespace QueryGateway

/-- How much a notice matters. -/
inductive Level where
  | info
  | warn
deriving DecidableEq, Repr, Inhabited

/-- A line of the log. -/
structure Notice where
  level : Level
  message : String
deriving DecidableEq, Repr, Inhabited

/-- What became of a start: the notices it left, and its error or the address listened on. -/
structure Startup where
  notices : List Notice := []
  outcome : Except String Http.Address
deriving Repr

namespace Startup

/-- The version of the gateway. -/
def version : String := "0.1.0"

/-- What is said about the engines. -/
def engineNotices (health : Health) : List Notice :=
  [if health.queryAvailable then ⟨.info, "jqlite engine available"⟩
   else ⟨.warn, "jqlite engine not found; queries will fail"⟩,
   if health.visualizationAvailable then ⟨.info, "Visualization engine available"⟩
   else ⟨.warn, "Visualization engine not found; /api/visualize will report it unavailable"⟩]

/-- What is said before the gateway listens. -/
def opening (health : Health) : List Notice :=
  [⟨.info, "jqlite gateway v" ++ version ++ " starting..."⟩, ⟨.info, "Engine limits configured"⟩] ++
    engineNotices health ++ [⟨.info, "Starting HTTP server"⟩]

/-- What is said once the gateway listens. -/
def listening : List Notice :=
  [⟨.info, "HTTP server started successfully"⟩, ⟨.info, "System ready. Waiting for requests..."⟩,
   ⟨.info, "Press Ctrl+C to shutdown"⟩]

/-- What is said when the gateway stops and its last requests end in time. -/
def closing : List Notice :=
  [⟨.info, "Shutdown signal received. Draining in-flight requests..."⟩, ⟨.info, "Shutdown complete."⟩]

/-- The health that the gateway finds when it starts. -/
def healthOf (settings : Settings) (available : Path → Bool) : Health :=
  { queryAvailable := available settings.engines.query,
    queryPath := settings.engines.query.display,
    visualizationAvailable := available settings.engines.visualization,
    visualizationPath := settings.engines.visualization.display }

/-- Starts the gateway. -/
def run (network : Http.Network) (available : Path → Bool) (settings : Except SettingFault Settings) : Startup :=
  match settings with
  | .error _ => { outcome := .error "Invalid configuration" }
  | .ok settings =>
    let opening := opening (healthOf settings available)
    match network.bind settings.host settings.port with
    | .error fault =>
      { notices := opening,
        outcome := .error ("HTTP server start failed: " ++ Http.startError settings.host settings.port fault) }
    | .ok address => { notices := opening ++ listening, outcome := .ok address }

end Startup

end QueryGateway
