import SearchBridge.Body.Compile
import SearchBridge.Http.Basic
import SearchBridge.Json.Raw
import SearchBridge.Response.Lifting

/-!
# Search engines

An engine runs search bodies and tells whether it is there. Whatever stands behind it, a request is
answered in three steps: the request is compiled, the engine runs the body, and its result is lifted
to the response.

Compiling a request and lifting a result never fail. All that can go wrong lies between the two: the
settings of the connection, the exchange with the server, and what the server replies. A check of
its health asks the engine for a sign of life and reports whether one came.
-/

namespace SearchBridge

/-! ### Failures -/

/-- Why the engine gave no answer. -/
inductive EngineError where
  /-- A setting is missing. -/
  | configuration (reason : String)
  /-- The server's address is malformed. -/
  | address (error : Url.Error)
  /-- The exchange with the server failed. -/
  | exchange (error : Http.Error)
  /-- The server reported a failure. -/
  | status (code : Nat) (content : String)
  /-- The server's result cannot be read. -/
  | result (error : Json.Error)
  /-- The server's mapping is none. -/
  | mapping (reason : String)
  deriving DecidableEq

/-- The description of a failure. -/
def EngineError.message : EngineError → String
  | .configuration reason => "Configuration error: " ++ reason
  | .address error => "Invalid server URL: " ++ error.message
  | .exchange error => "HTTP request error: " ++ error.message
  | .status code content => "OpenSearch returned status " ++ toString code ++ ": " ++ content
  | .result error => "Compiler error: JSON parse error: " ++ error.category
  | .mapping reason => "Compiler error: Invalid index mapping: " ++ reason

/-! ### Engines -/

/-- A search engine. -/
structure Engine (m : Type → Type) where
  /-- Runs a search. -/
  search : SearchBody → ExceptT EngineError m SearchResult
  /-- Succeeds if the engine shows a sign of life within so many milliseconds. -/
  ping : Nat → ExceptT EngineError m Unit

/-- The engine's response to a request. -/
def Engine.respond {m : Type → Type} [Monad m] (e : Engine m) (r : SearchRequest) (index : String)
    (catalog : Catalog) (options : CompilerOptions) : ExceptT EngineError m SearchResponse := do
  let result ← e.search (r.compile index catalog options)
  return .ofResult result (some r)

/-! ### Health -/

/-- Whether the engine is there. -/
inductive HealthStatus where
  | healthy
  | unhealthy
  deriving DecidableEq

/-- The outcome of a check. -/
structure HealthReport where
  status : HealthStatus
  description : String
  deriving DecidableEq

namespace HealthReport

/-- The report of a sign of life. -/
def alive : HealthReport := ⟨.healthy, "OpenSearch server is reachable"⟩

/-- The report of a failure. -/
def failed (error : EngineError) : HealthReport :=
  ⟨.unhealthy, "No connection to OpenSearch-server.\n" ++ error.message⟩

/-- Whether the report is good. -/
def isHealthy (r : HealthReport) : Bool := r.status == .healthy

/-- The JSON of a report. -/
def toJson (r : HealthReport) : Json :=
  let status := match r.status with
    | .healthy => "healthy"
    | .unhealthy => "unhealthy"
  .object [("status", .string status), ("description", .string r.description)]

end HealthReport

/-- Checks the engine, waiting at most so many milliseconds. -/
def Engine.health {m : Type → Type} [Monad m] (e : Engine m) (timeout : Nat) : m HealthReport := do
  match ← (e.ping timeout).run with
  | .ok () => return .alive
  | .error error => return .failed error

end SearchBridge
