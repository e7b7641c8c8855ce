import SearchBridge.Catalog.Mapping
import SearchBridge.Connection.Basic
import SearchBridge.Engine

/-!
# Engines behind a connection

A client asks a server over a transport: for the mapping of an index, for the result of a search,
and for a sign of life. A reply that does not report success is a failure.
-/

namespace SearchBridge

/-- A client of a server. -/
structure Client (m : Type → Type) where
  connection : Connection
  transport : Http.Transport m

namespace Client

open MonadExcept (ofExcept)

variable {m : Type → Type} [Monad m]

/-- A reply without success is a failure. -/
def checked (method : Http.Method) (r : Http.Reply) : Except EngineError String :=
  if r.isSuccess then .ok (r.content method) else .error (.status r.status (r.content method))

/-- The content of the successful reply to a request. -/
def send (c : Client m) (method : Http.Method) (path : String) (content : Option Json)
    (timeout : Nat) : ExceptT EngineError m String := do
  let request ← ofExcept ((c.connection.request? method path content timeout).mapError .exchange)
  match ← c.transport request with
  | none => throw (.exchange (.unreachable request.address))
  | some reply => ofExcept (checked method reply)

/-- How long a request may take, in milliseconds. -/
def requestTimeout (c : Client m) : Nat := c.connection.requestTimeout.toNat * 1000

/-- The catalog that the content of a reply holds as a mapping. -/
def catalogOf (content : String) : Except EngineError Catalog :=
  match Json.ofText content with
  | .error _ => .error (.exchange .badContent)
  | .ok mapping => (Catalog.ofMapping mapping).mapError .mapping

/-- The catalog of an index. -/
def catalog (c : Client m) (index : String) : ExceptT EngineError m Catalog := do
  let content ← c.send .get (index ++ "/_mapping") none c.requestTimeout
  ofExcept (catalogOf content)

/-- Runs a search. -/
def search (c : Client m) (body : SearchBody) : ExceptT EngineError m SearchResult := do
  let content ← c.send .post (body.index ++ "/_search") (some body.toJson) c.requestTimeout
  ofExcept ((Json.decodeText SearchResult.read content).mapError .result)

/-- Asks for a sign of life. -/
def ping (c : Client m) (timeout : Nat) : ExceptT EngineError m Unit := do
  let _ ← c.send .head "" none timeout

/-- The client as an engine. -/
def engine (c : Client m) : Engine m := ⟨c.search, c.ping⟩

end Client

end SearchBridge
