/-!
# What the client is asked to do

The arguments of the client name one errand: to have a query answered, to have its trace shown, or to ask for the
health of the gateway. The gateway's address stands in front of the errand, or in a variable, or is the usual one.
-/

namespace QueryGateway.Client

/-- Where the document of a query comes from. -/
inductive Provision where
  | literal (document : String)
  | file (path : String)
deriving DecidableEq, Repr, Inhabited

/-- What the client is to do. -/
inductive Errand where
  | query (expression : String) (document : Provision)
  | trace (expression : String) (document : Provision)
  | health
deriving DecidableEq, Repr, Inhabited

/-- An errand and the address of the gateway. -/
structure Order where
  base : String
  errand : Errand
deriving DecidableEq, Repr, Inhabited

/-- What arguments come to. -/
inductive Asked where
  | order (order : Order)
  /-- Only a text is wanted. -/
  | tell (text : String)
  /-- The arguments make no sense. -/
  | misuse
deriving DecidableEq, Repr, Inhabited

namespace Arguments

/-- The address of the gateway unless another is given. -/
def standardBase : String := "http://127.0.0.1:3000"

/-- The client's name and version. -/
def version : String := "jqlite-cli 0.1.0\n"

/-- What help can be had about. -/
inductive Topic where
  | client
  | query
  | trace
  | health
  | help
deriving DecidableEq, Repr

/-- How a query is asked for. -/
def queryHelp (about name : String) : String :=
  about ++ "\n\nUsage: jqlite-cli " ++ name ++ " [OPTIONS] --query <QUERY>\n\nOptions:\n" ++
  "  -q, --query <QUERY>  Query expression (e.g. \".a\")\n" ++
  "  -d, --data <DATA>    JSON document as a literal string\n" ++
  "  -f, --file <FILE>    Read the JSON document from a file\n" ++
  "  -h, --help           Print help\n"

/-- A text inside a column of the help: what follows a line end is moved under the column's start. -/
def inColumn (indent : Nat) (s : String) : String :=
  String.ofList (s.toList.flatMap fun c => if c = '\n' then c :: List.replicate indent ' ' else [c])

/-- How the client is used; the address that the environment gives is shown. -/
def clientHelp (preset : Option String) : String :=
  "Client for the jqlite HTTP gateway\n\nUsage: jqlite-cli [OPTIONS] <COMMAND>\n\nCommands:\n" ++
  "  query      Run a query against a JSON document\n" ++
  "  visualize  Run a query and print the engine's execution trace\n" ++
  "  health     Show engine availability\n" ++
  "  help       Print this message or the help of the given subcommand(s)\n\nOptions:\n" ++
  "      --url <URL>  Gateway base URL [env: JQLITE_URL=" ++ inColumn 19 (preset.getD "") ++ "] [default: " ++
  standardBase ++ "]\n  -h, --help       Print help\n  -V, --version    Print version\n"

/-- The help about a topic. -/
def Topic.text (preset : Option String) : Topic → String
  | client => clientHelp preset
  | query => queryHelp "Run a query against a JSON document" "query"
  | trace => queryHelp "Run a query and print the engine's execution trace" "visualize"
  | health => "Show engine availability\n\nUsage: jqlite-cli health\n\nOptions:\n  -h, --help  Print help\n"
  | help =>
    "Print this message or the help of the given subcommand(s)\n\nUsage: jqlite-cli help [COMMAND]...\n\n" ++
    "Arguments:\n  [COMMAND]...  Print help for the subcommand(s)\n"

/-- A topic by the word for it. -/
def Topic.ofString? : String → Option Topic
  | "query" => some .query
  | "visualize" => some .trace
  | "health" => some .health
  | "help" => some .help
  | _ => none

/-- The form of an argument. -/
inductive Form where
  /-- A word that is no option. A lone hyphen is one. -/
  | word (text : String)
  /-- Two hyphens: no option follows. -/
  | stop
  /-- An option by its name, with the value behind an equals sign. -/
  | named (name : String) (value : Option String)
  /-- An option by its letter, with what follows the letter. -/
  | letter (letter : Char) (rest : List Char)
deriving DecidableEq, Repr

/-- The form of an argument. -/
def Form.ofString (s : String) : Form :=
  match s.toList with
  | ['-', '-'] => .stop
  | '-' :: '-' :: cs =>
    let value := match cs.dropWhile (· ≠ '=') with
      | [] => none
      | _ :: value => some (String.ofList value)
    .named (String.ofList (cs.takeWhile (· ≠ '='))) value
  | '-' :: c :: cs => .letter c cs
  | _ => .word s

/-- The options of a query. Each has a value. -/
inductive Flag where
  | query
  | data
  | file
deriving DecidableEq, Repr

/-- An option by its letter. -/
def Flag.ofLetter? : Char → Option Flag
  | 'q' => some .query
  | 'd' => some .data
  | 'f' => some .file
  | _ => none

/-- An option by its name. -/
def Flag.ofName? : String → Option Flag
  | "query" => some .query
  | "data" => some .data
  | "file" => some .file
  | _ => none

/-- How an argument of a query is meant: as an option with its value, as one whose value is to follow, as a call for
help, as the end of the options, or as nothing. -/
inductive Meant where
  | given (option : Flag) (value : String)
  | awaits (option : Flag)
  | help
  | stop
  | nothing
deriving DecidableEq, Repr

/-- How an argument of a query is meant, by its form. A value that follows its letter directly may have an equals sign
in front. -/
def Meant.ofForm : Form → Meant
  | .word _ => .nothing
  | .stop => .stop
  | .named "help" none => .help
  | .named name none => ((Flag.ofName? name).map Meant.awaits).getD .nothing
  | .named name (some value) => ((Flag.ofName? name).map (Meant.given · value)).getD .nothing
  | .letter 'h' _ => .help
  | .letter letter [] => ((Flag.ofLetter? letter).map Meant.awaits).getD .nothing
  | .letter letter ('=' :: value) => ((Flag.ofLetter? letter).map (Meant.given · (String.ofList value))).getD .nothing
  | .letter letter value => ((Flag.ofLetter? letter).map (Meant.given · (String.ofList value))).getD .nothing

/-- The options of a query that were met, each at most once. -/
structure Met where
  query : Option String := none
  data : Option String := none
  file : Option String := none
deriving DecidableEq, Repr, Inhabited

/-- Takes in an option; one that was met already makes no sense, and neither does a file without a name. -/
def Met.take (met : Met) (option : Flag) (value : String) : Option Met :=
  match option with
  | .query => if met.query.isSome then none else some { met with query := some value }
  | .data => if met.data.isSome then none else some { met with data := some value }
  | .file => if met.file.isSome || value = "" then none else some { met with file := some value }

/-- The query that the options make: the expression and exactly one document. -/
def Met.query? (met : Met) : Option (String × Provision) :=
  match met.query, met.data, met.file with
  | some expression, some document, none => some (expression, .literal document)
  | some expression, none, some path => some (expression, .file path)
  | _, _, _ => none

/-- What the arguments of a query come to. -/
inductive Read where
  | query (expression : String) (document : Provision)
  | help
  | misuse
deriving DecidableEq, Repr

/-- What the options of a query come to when no argument is left. -/
def Met.read (met : Met) : Read :=
  match met.query? with
  | some (expression, document) => .query expression document
  | none => .misuse

/-- Reads the arguments of a query from the left: the first one that asks for help or makes no sense decides. -/
def readQuery : List String → Met → Read
  | [], met => met.read
  | argument :: rest, met =>
    match Meant.ofForm (.ofString argument) with
    | .help => .help
    | .nothing => .misuse
    | .stop => if rest.isEmpty then met.read else .misuse
    | .given option value =>
      match met.take option value with
      | some met => readQuery rest met
      | none => .misuse
    | .awaits option =>
      match rest with
      | [] => .misuse
      | next :: rest =>
        match Form.ofString next with
        | .word value =>
          match met.take option value with
          | some met => readQuery rest met
          | none => .misuse
        | _ => .misuse

/-- Reads the arguments behind the errand that asks for the health: there is nothing to say but to ask for help. -/
def readHealth (base : String) (rest : List String) : Asked :=
  match rest.map Form.ofString with
  | [] | [.stop] => .order ⟨base, .health⟩
  | .letter 'h' _ :: _ | .named "help" none :: _ => .tell (Topic.health.text none)
  | _ => .misuse

/-- Reads the arguments behind a topic. -/
def readTopic (preset : Option String) (base : String) (topic : Topic) (rest : List String) : Asked :=
  let asked (errand : String → Provision → Errand) : Asked :=
    match readQuery rest {} with
    | .query expression document => .order ⟨base, errand expression document⟩
    | .help => .tell (topic.text preset)
    | .misuse => .misuse
  match topic with
  | .client => .misuse
  | .query => asked .query
  | .trace => asked .trace
  | .health => readHealth base rest
  | .help =>
    match rest with
    | [] => .tell (Topic.client.text preset)
    | [word] => ((Topic.ofString? word).map fun about => Asked.tell (about.text preset)).getD .misuse
    | _ => .misuse

/-- Reads the arguments; `given` is the address met among them, `preset` that of the environment. -/
def readFrom (preset : Option String) : Option String → List String → Asked
  | _, [] => .misuse
  | given, argument :: rest =>
    match Form.ofString argument with
    | .letter 'h' _ | .named "help" none => .tell (Topic.client.text preset)
    | .letter 'V' _ | .named "version" none => .tell version
    | .named "url" (some value) => if given.isSome then .misuse else readFrom preset (some value) rest
    | .named "url" none =>
      match given, rest with
      | none, next :: rest =>
        match Form.ofString next with
        | .word value => readFrom preset (some value) rest
        | _ => .misuse
      | _, _ => .misuse
    | .word word =>
      match Topic.ofString? word with
      | some topic => readTopic preset ((given <|> preset).getD standardBase) topic rest
      | none => .misuse
    | _ => .misuse

/-- What the arguments of the client come to; `preset` is the address that the environment gives. -/
def read (preset : Option String) (arguments : List String) : Asked :=
  readFrom preset none arguments

end Arguments

end QueryGateway.Client
