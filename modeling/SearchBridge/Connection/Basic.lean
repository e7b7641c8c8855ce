import SearchBridge.Engine
import SearchBridge.Options.Basic

/-!
# Connections

The options name a server as people do. A connection has its address, the credentials to show there,
and how to ask: every request goes to a path below the address.
-/

namespace SearchBridge

/-- Settings of a connection to a server; the timeouts are in seconds. -/
structure Connection where
  server : Url
  credentials : Option Credentials
  acceptsCompression : Bool
  requestTimeout : UInt64
  healthCheckTimeout : UInt64
  deriving DecidableEq

/-- The user that a password belongs to when none is named. -/
def Credentials.defaultUser : String := "openSearch"

/-- The credentials of options, if there is a password. -/
def Credentials.ofOptions? (o : ConnectionOptions) : Option Credentials :=
  o.password.map fun password =>
    ⟨(o.user.filter fun user => !user.isEmpty).getD Credentials.defaultUser, password⟩

/-- Whether a text starts with a scheme in any case. -/
def hasScheme (s : String) : Bool :=
  (Text.lowerAscii s).startsWith "http://" || (Text.lowerAscii s).startsWith "https://"

/-- The address that people mean by the name of a server: blanks around it and slashes at its end do
not count, and the scheme may be missing. -/
def serverUrl? (name : String) : Except EngineError Url :=
  let name := Text.trim name
  if name.isEmpty then .error (.configuration "'Server' parameter must not be empty")
  else
    let address := if hasScheme name then name else "http://" ++ name
    (Url.ofText? (Text.trimEnd (· == '/') address)).mapError .address

namespace Connection

/-- The connection that options describe. -/
def ofOptions? (o : ConnectionOptions) : Except EngineError Connection := do
  return {
    server := ← serverUrl? o.server
    credentials := Credentials.ofOptions? o
    acceptsCompression := o.enableCompression
    requestTimeout := o.requestTimeout
    healthCheckTimeout := o.healthCheckTimeout }

/-- The address of a path below the server's, with one slash between the two. -/
def endpoint (c : Connection) (path : String) : String :=
  Text.trimEnd (· == '/') c.server.text ++ "/" ++ Text.trimStart (· == '/') path

/-- The request for a path. Credentials in the server's address come before those of the options. -/
def request? (c : Connection) (method : Http.Method) (path : String) (content : Option Json)
    (timeout : Nat) : Except Http.Error Http.Request := do
  let address ← (Url.ofText? (c.endpoint path)).mapError .badAddress
  let own := Credentials.ofUrl? address
  return {
    method := method
    address := if own.isSome then { address with user := [], password := [] } else address
    credentials := own.or c.credentials
    acceptsCompression := c.acceptsCompression
    content := content
    timeout := timeout }

end Connection

end SearchBridge
