import SearchBridge.Table

/-!
# Arguments of the command line

The program has three commands, each with options of its own; two options about logging go with any
of them, before or after the command's name. An option's value is the next argument or stands after
an equals sign. Whatever does not fit is refused as a whole.
-/

namespace SearchBridge

/-- What the program is to do. -/
inductive Command where
  /-- Prints the body of a request; files hold the request and the mapping of the index. -/
  | compile (request : String) (mapping : Option String) (index : String)
  /-- Prints the engine's response to a request. -/
  | search (request index : String)
  /-- Prints whether the engine is there. -/
  | health
  deriving DecidableEq

namespace Command

/-- How the reading of arguments ends without a command. -/
inductive Stop where
  /-- The arguments do not fit. -/
  | refused
  /-- The version is asked for. -/
  | version
  /-- The usage is asked for. -/
  | usage
  deriving DecidableEq

/-- The options that are understood at one place. -/
structure Understood where
  /-- Options without a value. -/
  flags : List String
  /-- Options with a value. -/
  valued : List String
  /-- Options that end the reading, with their one-letter forms. -/
  stops : List (String × Char × Stop)

/-- The options about logging. -/
def logOptions : List String × List String := (["json-logs"], ["log-level"])

/-- The options before the name of a command. -/
def general : Understood where
  flags := logOptions.1
  valued := logOptions.2
  stops := [("help", 'h', .usage), ("version", 'V', .version)]

/-- The options of a command that has some of its own. -/
def particular (own : List String) : Understood where
  flags := logOptions.1
  valued := logOptions.2 ++ own
  stops := [("help", 'h', .usage)]

/-- The name of an option in its long form, and the value attached to it. -/
def longOption? (arg : String) : Option (String × Option String) :=
  match arg.toList with
  | '-' :: '-' :: cs =>
    let name := String.ofList (cs.takeWhile (· != '='))
    match cs.dropWhile (· != '=') with
    | [] => some (name, none)
    | _ :: value => some (name, some (String.ofList value))
  | _ => none

/-- Whether an argument has the form of an option, so that it is no value. -/
def isOption (arg : String) : Bool := arg.startsWith "-" && arg != "-"

/-- Adds an option that is not there yet. -/
def add (found : Table String) (name value : String) : Except Stop (Table String) :=
  if name ∈ found.keys then .error .refused else .ok (found ++ [(name, value)])

/-- Reads options up to the first argument that is none; nothing but the end may follow two
hyphens. -/
def options (u : Understood) (found : Table String) :
    List String → Except Stop (Table String × List String)
  | [] => .ok (found, [])
  | [arg] => do
    if arg = "--" then return (found, [])
    match longOption? arg with
    | some (name, attached) => return (← step name attached, [])
    | none => short arg []
  | arg :: next :: rest => do
    match longOption? arg with
    | some (name, none) =>
      if name ∈ u.valued then
        if isOption next then throw .refused
        options u (← add found name next) rest
      else options u (← step name none) (next :: rest)
    | some (name, some value) => options u (← step name (some value)) (next :: rest)
    | none => short arg (next :: rest)
where
  /-- An option that takes no argument after it. -/
  step (name : String) (attached : Option String) : Except Stop (Table String) :=
    match attached with
    | some value => if name ∈ u.valued then add found name value else .error .refused
    | none =>
      match u.stops.lookup name with
      | some (_, stop) => .error stop
      | none => if name ∈ u.flags then add found name "" else .error .refused
  /-- An argument that is no option in its long form. -/
  short (arg : String) (rest : List String) : Except Stop (Table String × List String) :=
    if isOption arg then
      match u.stops.find? fun s => arg.toList[1]? = some s.2.1 with
      | some s => .error s.2.2
      | none => .error .refused
    else .ok (found, arg :: rest)

/-- The options of a command, after which no argument may be left. -/
def ownOptions (own : List String) (args : List String) : Except Stop (Table String) := do
  let (found, rest) ← options (particular own) [] args
  if rest.isEmpty then return found else throw .refused

/-- The value of a mandatory option. -/
def mandatory (found : Table String) (name : String) : Except Stop String :=
  match found.get? name with
  | some value => .ok value
  | none => .error .refused

/-- The path of a file, which has a name. -/
def path (value : String) : Except Stop String :=
  if value.isEmpty then .error .refused else .ok value

/-- The names of the commands. -/
def names : List String := ["compile", "search", "health", "help"]

/-- Reads the arguments after the name of a command. -/
def ofName (name : String) (args : List String) : Except Stop Command := do
  match name with
  | "compile" =>
    let found ← ownOptions ["request", "mapping", "index"] args
    let request ← path (← mandatory found "request")
    let mapping ← (found.get? "mapping").mapM path
    return .compile request mapping (← mandatory found "index")
  | "search" =>
    let found ← ownOptions ["request", "index"] args
    return .search (← path (← mandatory found "request")) (← mandatory found "index")
  | "health" =>
    let _ ← ownOptions [] args
    return .health
  | "help" =>
    match args with
    | [] => throw .usage
    | [other] => throw (if other ∈ names then .usage else .refused)
    | _ => throw .refused
  | _ => throw .refused

/-- Reads the arguments of the program. -/
def ofArguments (args : List String) : Except Stop Command := do
  match ← options general [] args with
  | (_, name :: rest) => ofName name rest
  | (_, []) => throw .refused

end Command

end SearchBridge
