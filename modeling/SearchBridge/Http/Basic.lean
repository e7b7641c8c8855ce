import SearchBridge.Json.Basic
import SearchBridge.Text.Encoding
import SearchBridge.Text.Quoted
import SearchBridge.Url.Parsing

/-!
# Requests and replies

What goes over the wire between the library and a server. A transport carries a request to the
server that its address names, and brings the reply back if there is one.
-/

namespace SearchBridge

/-- A name and a password. -/
structure Credentials where
  user : String
  password : String
  deriving DecidableEq

namespace Credentials

/-- The credentials in a diagnostic, which hides the password. -/
def diagnostic (c : Credentials) : String :=
  "BasicAuth \x7b user: " ++ Text.quoted c.user ++ ", password: \"***\" \x7d"

/-- The credentials in a request. -/
def header (c : Credentials) : String :=
  "Basic " ++ String.ofList (Base64.encode (c.user ++ ":" ++ c.password).toUTF8.toList)

/-- The credentials that an address holds. -/
def ofUrl? (u : Url) : Option Credentials := do
  let user ← Utf8.text? (Url.decode u.user)
  let password := Utf8.text? (Url.decode u.password)
  guard (u.user ≠ [] ∨ u.password ≠ [] ∧ password.isSome)
  return ⟨user, password.getD ""⟩

end Credentials

namespace Http

/-- What is done with a resource. -/
inductive Method where
  | get
  | head
  | post
  deriving DecidableEq

/-- The name of a method. -/
def Method.name : Method → String
  | .get => "GET"
  | .head => "HEAD"
  | .post => "POST"

/-- A request; its address holds no credentials. -/
structure Request where
  method : Method
  address : Url
  credentials : Option Credentials
  acceptsCompression : Bool
  /-- The content, which is JSON if there is one. -/
  content : Option Json
  /-- How long to wait for the reply, in milliseconds. -/
  timeout : Nat

/-- A reply: its status code, and its content as the server has it. -/
structure Reply where
  status : Nat
  body : String
  deriving DecidableEq

/-- The content of a reply to a method: there is none if only the head was asked for, and under the
status codes that exclude one. -/
def Reply.content (r : Reply) (method : Method) : String :=
  if method = .head ∨ r.status = 204 ∨ r.status = 304 then "" else r.body

/-- Whether a reply reports success. -/
def Reply.isSuccess (r : Reply) : Bool := decide (200 ≤ r.status ∧ r.status < 300)

/-- Carries requests; there is no reply if the server cannot be reached. -/
abbrev Transport (m : Type → Type) := Request → m (Option Reply)

/-- Why an exchange failed. -/
inductive Error where
  /-- The text is no address. -/
  | badAddress (error : Url.Error)
  /-- No server replied. -/
  | unreachable (address : Url)
  /-- The content of the reply is not JSON. -/
  | badContent
  deriving DecidableEq

/-- The description of a failure. -/
def Error.message : Error → String
  | .badAddress _ => "builder error"
  | .unreachable address => "error sending request for url (" ++ address.text ++ ")"
  | .badContent => "error decoding response body"

end Http

end SearchBridge
