import SearchBridge.Url.Domain

/-!
# Web addresses

The address of a resource on a server: how to talk to the server, who does, where the server is,
and which of its resources is meant. Its text has one form, in which all parts are encoded and the
default port is left out.
-/

namespace SearchBridge

/-- The way to talk to a server. -/
inductive Url.Scheme where
  | http
  | https
  deriving DecidableEq

/-- The name or number of a server. -/
inductive Url.Host where
  /-- A domain name in its written form. -/
  | domain (name : List Char)
  /-- An address of 32 bits. -/
  | short (address : Nat)
  /-- An address of 128 bits in eight pieces. -/
  | long (pieces : List Nat)
  deriving DecidableEq

/-- The address of a resource. Its texts are in their written form, and the path starts with a
slash. -/
structure Url where
  scheme : Url.Scheme
  /-- The user name; an empty one is none. -/
  user : List Char := []
  /-- The password; an empty one is none. -/
  password : List Char := []
  host : Url.Host
  /-- The port, if it is not the default one. -/
  port : Option Nat := none
  path : List Char
  query : Option (List Char) := none
  fragment : Option (List Char) := none
  deriving DecidableEq

namespace Url

/-- The name of a scheme. -/
def Scheme.name : Scheme → String
  | .http => "http"
  | .https => "https"

/-- The port that a server is expected at. -/
def Scheme.defaultPort : Scheme → Nat
  | .http => 80
  | .https => 443

/-- The text of a host. -/
def Host.text : Host → String
  | .domain name => String.ofList name
  | .short address => address32Text address
  | .long pieces => "[" ++ address128Text pieces ++ "]"

/-- Who talks to the server, followed by an at sign. -/
def credentialsText (u : Url) : String :=
  let user := String.ofList u.user
  if u.password.isEmpty then if u.user.isEmpty then "" else user ++ "@"
  else user ++ ":" ++ String.ofList u.password ++ "@"

/-- The port after a colon. -/
def portText (u : Url) : String :=
  match u.port with
  | some port => ":" ++ toString port
  | none => ""

/-- The part of the text that tells the server. -/
def authority (u : Url) : String := u.credentialsText ++ u.host.text ++ u.portText

/-- The path and the query: what the server is asked for. -/
def target (u : Url) : String :=
  String.ofList u.path ++
    match u.query with
    | some query => "?" ++ String.ofList query
    | none => ""

/-- The text of an address. -/
def text (u : Url) : String :=
  u.scheme.name ++ "://" ++ u.authority ++ u.target ++
    match u.fragment with
    | some fragment => "#" ++ String.ofList fragment
    | none => ""

end Url

end SearchBridge
