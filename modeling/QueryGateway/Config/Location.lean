import QueryGateway.Files.Path
import QueryGateway.Text.Blank

/-!
# Paths in settings

A path in a setting is trimmed; a tilde alone or before a slash stands for the home directory; what is still relative
is taken from the working directory; and the result is written without repeated slashes, `.` parts or a slash at its
end.
-/

namespace QueryGateway

/-- What a process finds around it: where it works, whose home it uses, and where temporary files go. -/
structure Surroundings where
  cwd : Path
  home : Option Path := none
  temporary : Option Path := none
deriving DecidableEq, Repr, Inhabited

namespace Surroundings

/-- The text of a path with its tilde replaced. Any other text, and every text when no home is known, stays as it is. -/
def expandTilde (around : Surroundings) (text : String) : Path :=
  let plain := Path.ofString text
  match text.toList, around.home with
  | ['~'], some home => home
  | '~' :: '/' :: rest, some home => ⟨home.bytes ++ Path.slash :: Text.encode (String.ofList rest)⟩
  | _, _ => plain

/-- The place that a setting names. -/
def locate (around : Surroundings) (setting : String) : Path :=
  (around.cwd.join (around.expandTilde (Text.trim setting))).normalize

/-- Where temporary files go. -/
def temporaryDirectory (around : Surroundings) : Path :=
  around.temporary.getD (.ofString "/tmp")

end Surroundings

end QueryGateway
