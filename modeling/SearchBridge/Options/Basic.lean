import SearchBridge.Json.Record

/-!
# Connection options

The options of a connection to the engine: its address, the credentials, whether answers may be
compressed, and how long to wait for an answer and for a sign of life.
-/

namespace SearchBridge

/-- The options of a connection; the timeouts are in seconds. -/
structure ConnectionOptions where
  server : String := ""
  user : Option String := none
  password : Option String := none
  enableCompression : Bool := false
  requestTimeout : UInt64 := 60
  healthCheckTimeout : UInt64 := 2
  deriving DecidableEq

namespace ConnectionOptions

open Json.Raw

/-- The JSON of the options. -/
def toJson (o : ConnectionOptions) : Json :=
  .object [("server", .string o.server), ("user", .orNull .string o.user),
    ("password", .orNull .string o.password),
    ("enable_http_compression", .bool o.enableCompression),
    ("request_timeout", .nat o.requestTimeout.toNat),
    ("health_check_timeout", .nat o.healthCheckTimeout.toNat)]

/-- The fields of the options in JSON. -/
def fields : List (Json.RecordField ConnectionOptions) := [
  .optional "server" readText fun x o => { o with server := x },
  .optional "user" (readOption readText) fun x o => { o with user := x },
  .optional "password" (readOption readText) fun x o => { o with password := x },
  .optional "enable_http_compression" readBool fun x o => { o with enableCompression := x },
  .optional "request_timeout" readUInt64 fun x o => { o with requestTimeout := x },
  .optional "health_check_timeout" readUInt64 fun x o => { o with healthCheckTimeout := x }]

/-- Reads the options from JSON. -/
def read : Json.Raw → Except Json.Error ConnectionOptions := readRecord fields {}

end ConnectionOptions

end SearchBridge
