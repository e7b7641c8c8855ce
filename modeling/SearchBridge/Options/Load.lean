import SearchBridge.Options.Basic
import SearchBridge.Options.Setting

/-!
# Loading connection options

Options are layered: defaults, then a file if it exists, then the variables of the environment
whose names start with a certain word. Files are looked up in a directory that maps paths to
contents.
-/

namespace SearchBridge

/-- Contents of files by their paths. -/
abbrev Directory := List (String × String)

/-- Variables of the environment by their names. -/
abbrev Environment := List (String × String)

/-- The parts of a path that matter: no empty ones and no steps in place, and a step up takes the
part before it away. -/
def pathParts (path : String) : List String :=
  (path.splitOn "/").foldl (fun parts part =>
    if part = "" ∨ part = "." then parts
    else if part = ".." then parts.dropLast
    else parts ++ [part]) []

namespace Directory

/-- The content of the file at a path. -/
def content? (d : Directory) (path : String) : Option String :=
  if path.endsWith "/" then none
  else (d.find? fun file => pathParts file.1 == pathParts path).map Prod.snd

end Directory

/-- The characters after the last point of a file's name, if the name does not start with it. -/
def fileExtension (path : String) : Option String := do
  let name := (← (pathParts path).getLast?).toList
  guard ('.' ∈ name)
  guard (!(name.reverse.dropWhile (· != '.')).tail.isEmpty)
  return String.ofList (name.reverse.takeWhile (· != '.')).reverse

namespace ConnectionOptions

/-- The settings before any file and variable. -/
def defaultSettings : Table Setting := [
  ("server", .text ""), ("enable_http_compression", .boolean false),
  ("request_timeout", .integer 60), ("health_check_timeout", .integer 2)]

/-- The setting under a name, converted; an absent one has a default. -/
def convert? {α : Type} (settings : Table Setting) (name : String) (default : α)
    (convert : Setting → Option α) : Option α :=
  match settings.get? name with
  | none => some default
  | some value => convert value

/-- The options that settings give, unless one of them has a wrong type. -/
def ofSettings? (settings : Table Setting) : Option ConnectionOptions := do
  let d : ConnectionOptions := {}
  return {
    server := ← convert? settings "server" d.server Setting.toText?
    user := ← convert? settings "user" d.user fun s => s.toText?.map some
    password := ← convert? settings "password" d.password fun s => s.toText?.map some
    enableCompression :=
      ← convert? settings "enable_http_compression" d.enableCompression Setting.toBool?
    requestTimeout := ← convert? settings "request_timeout" d.requestTimeout Setting.toWord?
    healthCheckTimeout :=
      ← convert? settings "health_check_timeout" d.healthCheckTimeout Setting.toWord? }

/-- The settings of a document, unless it is malformed. -/
def documentSettings? (text : String) : Option (List (String × Setting)) :=
  (Toml.Document.ofText? text).map fun entries =>
    entries.map fun e => (e.1, Setting.ofToml e.2)

/-- The options of a document over the defaults. -/
def ofToml? (text : String) : Option ConnectionOptions := do
  ofSettings? (Setting.assignAll defaultSettings (← documentSettings? text))

/-- The start of the names of variables that are settings, in lower case. -/
def variablePrefix : String := "opensearch__"

/-- The setting of a variable, if its name is that of one; two underscores separate the name of a
setting from that of its part. -/
def variableSetting? (v : String × String) : Option (String × Setting) :=
  let name := Text.lower v.1
  if name.startsWith variablePrefix then
    let name := String.ofList (name.toList.drop variablePrefix.length)
    some (".".intercalate (name.splitOn "__"), Setting.ofVariable v.2)
  else none

/-- The text of the options file at a path: a file of another format does not count, and a name
that is no file may lack its extension. -/
def file? (directory : Directory) (path : String) : Option String :=
  match directory.content? path with
  | some text => if fileExtension path = some "toml" then some text else none
  | none =>
    if (pathParts path).isEmpty then none
    else directory.content? (Text.trimEnd (· == '/') path ++ ".toml")

/-- Loads the options with the file at a path. -/
def loadFrom? (directory : Directory) (environment : Environment) (path : String) :
    Option ConnectionOptions := do
  let fromFile ← match file? directory path with
    | some text => documentSettings? text
    | none => some []
  let fromVariables := environment.filterMap variableSetting?
  ofSettings? (Setting.assignAll (Setting.assignAll defaultSettings fromFile) fromVariables)

/-- The variable that names the options file. -/
def pathVariable : String := "OPENSEARCH_CONFIG"

/-- The options file when no variable names one. -/
def defaultPath : String := "config/opensearch.toml"

/-- The path of the options file. -/
def path (environment : Environment) : String :=
  (environment.lookup pathVariable).getD defaultPath

/-- Loads the options with the file that the environment names. -/
def load? (directory : Directory) (environment : Environment) : Option ConnectionOptions :=
  loadFrom? directory environment (path environment)

end ConnectionOptions

end SearchBridge
