import SearchBridge.CommandLine.Arguments
import SearchBridge.CommandLine.Variables
import SearchBridge.Connection.Client
import SearchBridge.Json.Reader

/-!
# The program

What a run of the program leaves behind: its exit code, what it writes, and why it failed. A run
reads files from a directory, has variables of the environment, and talks to the engine over a
transport; each of them is given.
-/

namespace SearchBridge

/-- What a run leaves behind. -/
structure Outcome where
  exitCode : UInt32
  output : String := ""
  failure : Option String := none
  deriving DecidableEq

/-- What a run has at its disposal. -/
structure Surroundings (m : Type → Type) where
  directory : Directory
  environment : Environment
  transport : Http.Transport m

namespace Command

variable {m : Type → Type} [Monad m]

open MonadExcept (ofExcept)

/-- A value, or the failure with the given description. -/
def orFail {ε α : Type} (description : String) : Except ε α → Except String α
  | .ok x => .ok x
  | .error _ => .error description

/-- The request in a file. -/
def readRequest (directory : Directory) (path : String) : Except String SearchRequest :=
  match directory.content? path with
  | none => .error ("Failed to read request file " ++ path)
  | some text => orFail ("Failed to parse search request " ++ path)
      (Json.decodeText SearchRequest.read text)

/-- The catalog of the mapping in a file. -/
def readCatalog (directory : Directory) (path : String) : Except String Catalog :=
  match directory.content? path with
  | none => .error ("Failed to read mapping file " ++ path)
  | some text => do
    let mapping ← orFail ("Failed to parse mapping " ++ path) (Json.ofText text)
    orFail "Invalid index mapping" (Catalog.ofMapping mapping)

/-- The connection that the options describe. -/
def connect (directory : Directory) (environment : Environment) : Except String Connection :=
  match ConnectionOptions.load? directory environment with
  | none => .error "Failed to load OpenSearch options"
  | some options => orFail "Invalid connection settings" (Connection.ofOptions? options)

/-- A value as it is written to the output. -/
def written (v : Json) : String := v.pretty ++ "\n"

/-- The attempt of an engine, or the failure with the given description. -/
def attempt {α : Type} (description : String) (x : ExceptT EngineError m α) :
    ExceptT String m α :=
  ExceptT.mk (orFail description <$> x.run)

/-- Carries out a command. -/
def perform (s : Surroundings m) : Command → ExceptT String m Outcome
  | .compile request mapping index => do
    let request ← ofExcept (readRequest s.directory request)
    let catalog ← ofExcept (match mapping with
      | some path => readCatalog s.directory path
      | none => .ok .empty)
    return ⟨0, written (request.compile index catalog {}).toJson, none⟩
  | .search request index => do
    let request ← ofExcept (readRequest s.directory request)
    let client := Client.mk (← ofExcept (connect s.directory s.environment)) s.transport
    let catalog ← attempt ("Failed to read mapping of index '" ++ index ++ "'")
      (client.catalog index)
    let response ← attempt "Search failed" (client.engine.respond request index catalog {})
    return ⟨0, written response.toJson, none⟩
  | .health => do
    let client := Client.mk (← ofExcept (connect s.directory s.environment)) s.transport
    let report ← client.engine.health (client.connection.healthCheckTimeout.toNat * 1000)
    return ⟨if report.isHealthy then 0 else 1, written report.toJson, none⟩

end Command

namespace Program

/-- The name of the program. -/
def name : String := "opensearch-cli"

/-- The version of the program. -/
def version : String := "0.1.0"

/-- How the program is used. -/
def usage : String := "Compile and run searches against OpenSearch

Usage: opensearch-cli [OPTIONS] <COMMAND>

Commands:
  compile  Print the OpenSearch body compiled from a search request
  search   Run a search request and print the lifted response
  health   Check that the configured server is reachable
  help     Print this message or the help of the given subcommand(s)

Options:
      --json-logs              Emit logs as JSON
      --log-level <LOG_LEVEL>  Log level [default: info]
  -h, --help                   Print help
  -V, --version                Print version
"

/-- The file that may set variables. -/
def variablesPath : String := ".env"

/-- The surroundings with the variables that a file among them sets. -/
def withVariables {m : Type → Type} (s : Surroundings m) : Surroundings m :=
  match s.directory.content? variablesPath with
  | some text => { s with environment := Variables.load s.environment text }
  | none => s

/-- The paths of the files that a run may read. -/
def paths (environment : Environment) (arguments : List String) : List String :=
  let options := ConnectionOptions.path environment
  let own := match Command.ofArguments arguments with
    | .ok (.compile request mapping _) => request :: mapping.toList
    | .ok (.search request _) => [request]
    | _ => []
  own ++ [options, options ++ ".toml"]

/-- Runs the program. -/
def run {m : Type → Type} [Monad m] (s : Surroundings m) (arguments : List String) :
    m Outcome := do
  match Command.ofArguments arguments with
  | .error .version => return ⟨0, name ++ " " ++ version ++ "\n", none⟩
  | .error .usage => return ⟨0, usage, none⟩
  | .error .refused => return ⟨2, "", none⟩
  | .ok command =>
    match ← (command.perform (withVariables s)).run with
    | .ok outcome => return outcome
    | .error failure => return ⟨1, "", some failure⟩

end Program

end SearchBridge
