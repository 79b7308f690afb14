/-!
# Kinds of files

What the tables of extensions hold.
-/

namespace QueryGateway.Http.Extension

/-- A subtype, and the extensions of the files that have it, in lower case. -/
abbrev Kind := String × List String

end QueryGateway.Http.Extension
