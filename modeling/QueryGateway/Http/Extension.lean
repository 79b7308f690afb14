import QueryGateway.Http.Extension.Application
import QueryGateway.Http.Extension.Media
import QueryGateway.Http.Extension.Vendor

/-!
# Media types by extension

The type of a file is told by the extension of its name, in any case; no extension stands for two types.
-/

namespace QueryGateway.Http.Extension

/-- The known subtypes, by the type that they belong to. -/
def registry : List (String × List Kind) :=
  [("application", application), ("application", vendor), ("audio", audio), ("chemical", chemical),
   ("drawing", drawing), ("font", font), ("image", image), ("message", message), ("model", model), ("text", text),
   ("video", video), ("x-conference", conference), ("x-world", world)]

/-- The letters in lower case that a character is compared as: those of the alphabet and the few other characters
that stand for some of them. -/
def folded (c : Char) : List Char :=
  match c with
  | 'ſ' => ['s']
  | '\u212a' => ['k']
  | 'ß' | 'ẞ' => ['s', 's']
  | 'ﬀ' => ['f', 'f']
  | 'ﬁ' => ['f', 'i']
  | 'ﬂ' => ['f', 'l']
  | 'ﬃ' => ['f', 'f', 'i']
  | 'ﬄ' => ['f', 'f', 'l']
  | 'ﬅ' | 'ﬆ' => ['s', 't']
  | _ => [c.toLower]

/-- The extension of a file name: what follows its last dot, unless that dot comes first. -/
def ofFileName? (name : List Char) : Option (List Char) :=
  let back := name.reverse
  match back.dropWhile (· ≠ '.') with
  | _ :: _ :: _ => some (back.takeWhile (· ≠ '.')).reverse
  | _ => none

/-- The type that an extension stands for. -/
def mediaType? (extension : List Char) : Option String :=
  let lower := String.ofList (extension.flatMap folded)
  registry.findSome? fun (type, kinds) =>
    (kinds.find? fun (_, extensions) => extensions.contains lower).map fun (subtype, _) => type ++ "/" ++ subtype

/-- The type of a file whose extension says nothing. -/
def unknown : String := "application/octet-stream"

/-- The type of a file by its name. -/
def mediaTypeOf (name : String) : String :=
  ((ofFileName? name.toList).bind mediaType?).getD unknown

end QueryGateway.Http.Extension
