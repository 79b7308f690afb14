import QueryGateway.Text.Blank

/-!
# Media types

Whether a header says that a body is a JSON document.
-/

namespace QueryGateway.Http.MediaType

/-- Whether a character may stand in a token. -/
def isTokenChar (c : Char) : Bool :=
  c.isAlphanum || "!#$%&'*+-.^_|~".toList.contains c || c.toNat = 0x60

/-- Whether a character may stand between quotes. -/
def isQuotable (c : Char) : Bool :=
  c = '\t' || (32 ≤ c.toNat && c.toNat ≠ 127)

/-- Where a list of parameters stands. -/
inductive Place where
  /-- Before a name; blanks may still come. -/
  | beforeName
  | name
  /-- At the first character of a value. -/
  | beforeValue
  | value
  /-- Between quotes; `first` at the first character there. -/
  | quoted (first : Bool)
  | afterQuoted
deriving DecidableEq, Repr

/-- Whether the text behind the first semicolon is a list of parameters. -/
def isParameters : Place → List Char → Bool
  | .beforeName, [] => true
  | .value, [] => true
  | .beforeValue, [] => true
  | .afterQuoted, [] => true
  | _, [] => false
  | .beforeName, c :: cs =>
    if c = ' ' then isParameters .beforeName cs else isTokenChar c && isParameters .name cs
  | .name, c :: cs =>
    if c = '=' then isParameters .beforeValue cs else isTokenChar c && isParameters .name cs
  | .beforeValue, c :: cs =>
    if c = '"' then isParameters (.quoted true) cs else isTokenChar c && isParameters .value cs
  | .value, c :: cs =>
    if c = ';' then isParameters .beforeName cs else isTokenChar c && isParameters .value cs
  | .quoted first, c :: cs =>
    if c = '"' && !first then isParameters .afterQuoted cs else isQuotable c && isParameters (.quoted false) cs
  | .afterQuoted, c :: cs =>
    if c = ';' then isParameters .beforeName cs else c = ' ' && isParameters .afterQuoted cs

/-- The last plus of a subtype that is not its first character cuts off a suffix. -/
def splitSuffix (subtype : List Char) : List Char × Option (List Char) :=
  let back := subtype.reverse
  let suffix := back.takeWhile (· ≠ '+')
  match back.dropWhile (· ≠ '+') with
  | _ :: c :: front => ((c :: front).reverse, some suffix.reverse)
  | _ => (subtype, none)

/-- Whether the value of a content type header stands for a JSON document: type `application`, subtype or suffix
`json`, in any case, with parameters or without. -/
def isJson (header : String) : Bool :=
  let cs := header.toList
  let kind := cs.takeWhile (· ≠ '/')
  let rest := (cs.dropWhile (· ≠ '/')).drop 1
  let subtype := rest.takeWhile (· ≠ ';')
  let parameters := rest.dropWhile (· ≠ ';')
  let lower (cs : List Char) : String := String.ofList (cs.map Char.toLower)
  let (front, suffix) := splitSuffix subtype
  cs.all (fun c => c = '\t' || (32 ≤ c.toNat && c.toNat < 127)) &&
    kind.all isTokenChar && subtype ≠ [] && subtype.all isTokenChar &&
    isParameters .beforeName (parameters.drop 1) &&
    lower kind = "application" && (lower front = "json" || suffix.map lower = some "json")

end QueryGateway.Http.MediaType
