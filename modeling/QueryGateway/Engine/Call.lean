import QueryGateway.Engine.Bounds
import QueryGateway.Files.Path

/-!
# Calls of an engine

Two engines stand behind the gateway. A call names the program, its arguments one by one, and the bounds of the run; the
query expression is one argument, whatever it contains.
-/

namespace QueryGateway

/-- The two engines. -/
inductive Engine where
  | query
  | visualization
deriving DecidableEq, Repr, Inhabited

namespace Engine

/-- The name of an engine. -/
def name : Engine → String
  | query => "query"
  | visualization => "visualization"

/-- The argument that asks for a trace. -/
def traceFlag : String := "--visualize"

/-- The arguments of an engine: the expression and the input file, behind the flag where a trace is wanted. -/
def arguments (engine : Engine) (expression : String) (input : Path) : List String :=
  match engine with
  | query => [expression, input.display]
  | visualization => [traceFlag, expression, input.display]

end Engine

/-- One run to be made. -/
structure Call where
  program : Path
  arguments : List String
  bounds : Bounds
deriving DecidableEq, Repr, Inhabited

/-- Where the engines are and the bounds they run under. -/
structure Engines where
  query : Path
  visualization : Path
  bounds : Bounds := .standard
deriving DecidableEq, Repr, Inhabited

namespace Engines

/-- The program of an engine. -/
def program (engines : Engines) : Engine → Path
  | .query => engines.query
  | .visualization => engines.visualization

/-- Engines can be used when their bounds can. -/
def validate (engines : Engines) : Except Refusal Unit :=
  engines.bounds.validate

/-- The call for one expression on one input file. -/
def call (engines : Engines) (engine : Engine) (expression : String) (input : Path) : Call :=
  { program := engines.program engine, arguments := engine.arguments expression input, bounds := engines.bounds }

end Engines

end QueryGateway
