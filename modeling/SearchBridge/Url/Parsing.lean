import SearchBridge.Text.Basic
import SearchBridge.Url.Basic

/-!
# Reading web addresses

An address is cut at its delimiters: the authority ends at the first slash, question mark or number
sign, a backslash being a slash; the user's part ends at the last at sign of it, and the host at the
first colon outside brackets. Steps in place and steps up are taken out of the path, and every part
comes to its written form. Tabs and line breaks do not count anywhere.
-/

namespace SearchBridge.Url

/-- What makes a text no address. -/
inductive Error where
  | noScheme
  | emptyHost
  | invalidDomain
  | invalidAddress32
  | invalidAddress128
  | invalidPort
  deriving DecidableEq

/-- The description of an error. -/
def Error.message : Error → String
  | .noScheme => "relative URL without a base"
  | .emptyHost => "empty host"
  | .invalidDomain => "invalid international domain name"
  | .invalidAddress32 => "invalid IPv4 address"
  | .invalidAddress128 => "invalid IPv6 address"
  | .invalidPort => "invalid port number"

/-! ## The host and its surroundings -/

/-- Reads a host. -/
def Host.ofChars? : List Char → Except Error Host
  | [] => .error .emptyHost
  | '[' :: inner =>
    if inner.getLast? = some ']' then
      match address128? inner.dropLast with
      | some pieces => .ok (.long pieces)
      | none => .error .invalidAddress128
    else .error .invalidAddress128
  | name =>
    match (Utf8.text? (decode name)).bind fun s => domainText? s.toList with
    | none => .error .invalidDomain
    | some [] => .error .emptyHost
    | some written =>
      if endsInNumber written then
        match address32? written with
        | some address => .ok (.short address)
        | none => .error .invalidAddress32
      else .ok (.domain written)

/-- The characters of the host, and those after it. -/
def splitHost : Bool → List Char → List Char × List Char
  | _, [] => ([], [])
  | inBrackets, c :: rest =>
    if c = ':' ∧ !inBrackets then ([], c :: rest)
    else
      let (host, rest) := splitHost (c = '[' || (inBrackets && c != ']')) rest
      (c :: host, rest)

/-- Reads what follows the host: nothing, or a colon and a port that may be missing. -/
def port? (scheme : Scheme) : List Char → Except Error (Option Nat)
  | [] => .ok none
  | [_] => .ok none
  | _ :: digits =>
    match Literal.digits? digits with
    | some port =>
      if 65535 < port then .error .invalidPort
      else .ok (if port = scheme.defaultPort then none else some port)
    | none => .error .invalidPort

/-- The characters before the last at sign, if there is one, and those after it. -/
def splitUser (cs : List Char) : List Char × List Char :=
  let host := (cs.reverse.takeWhile (· != '@')).reverse
  (cs.take (cs.length - host.length - 1), host)

/-! ## The path -/

/-- A segment that is a step in place. -/
def isStepInPlace (segment : List Char) : Bool :=
  [".", "%2e"].contains (Text.lowerAscii (String.ofList segment))

/-- A segment that is a step up. -/
def isStepUp (segment : List Char) : Bool :=
  ["..", "%2e.", ".%2e", "%2e%2e"].contains (Text.lowerAscii (String.ofList segment))

/-- A segment that names a drive, above which no step leads. -/
def isDrive : List Char → Bool
  | [letter, mark] => letter.isAlpha && (mark == ':' || mark == '|')
  | _ => false

/-- The segments above the last one. -/
def stepUp (segments : List (List Char)) : List (List Char) :=
  match segments.getLast? with
  | some last => if isDrive last then segments else segments.dropLast
  | none => []

/-- Follows the segments of a path from the segments so far; a step at the end leaves an empty
segment there. -/
def follow (done : List (List Char)) : List (List Char) → List (List Char)
  | [] => done
  | [last] =>
    if isStepUp last then stepUp done ++ [[]]
    else if isStepInPlace last then done ++ [[]]
    else done ++ [last]
  | segment :: rest =>
    if isStepUp segment then follow (stepUp done) rest
    else if isStepInPlace segment then follow done rest
    else follow (done ++ [segment]) rest

/-- Reads a path; the slash at its start may be missing. -/
def pathOf (cs : List Char) : List Char :=
  let cs := cs.map fun c => if c = '\\' then '/' else c
  let cs := match cs with
    | '/' :: rest => rest
    | cs => cs
  '/' :: ['/'].intercalate (follow [] ((Text.splitAt '/' cs).map (encode notInPath)))

/-! ## The whole address -/

/-- A character at which the authority ends. -/
def endsAuthority (c : Char) : Bool := ['/', '\\', '?', '#'].contains c

/-- The characters without the part after a mark, and that part. -/
def splitMark (mark : Char) (cs : List Char) : List Char × Option (List Char) :=
  let before := cs.takeWhile (· != mark)
  match cs.dropWhile (· != mark) with
  | [] => (before, none)
  | _ :: after => (before, some after)

/-- The scheme that characters start with, and the characters after its colon. -/
def scheme? (cs : List Char) : Except Error (Scheme × List Char) :=
  let starts (name : String) : Bool := name.toList.isPrefixOf (cs.map Char.toLower)
  if starts "https:" then .ok (.https, cs.drop 6)
  else if starts "http:" then .ok (.http, cs.drop 5)
  else .error .noScheme

/-- A character that does not count at the ends of an address. -/
def isEdge (c : Char) : Bool := decide (c.toNat ≤ 0x20)

/-- The characters of a text that count in an address. -/
def significant (s : String) : List Char :=
  ((Text.dropEnd isEdge s.toList).dropWhile isEdge).filter fun c =>
    c != '\t' && c != '\n' && c != '\r'

/-- Reads an address. -/
def ofText? (s : String) : Except Error Url := do
  let (scheme, rest) ← scheme? (significant s)
  let rest := rest.dropWhile fun c => c == '/' || c == '\\'
  let (userPart, hostPart) := splitUser (rest.takeWhile (!endsAuthority ·))
  let (user, password) := splitMark ':' userPart
  let (host, portPart) := splitHost false hostPart
  let host ← Host.ofChars? host
  let port ← port? scheme portPart
  let (rest, fragment) := splitMark '#' (rest.dropWhile (!endsAuthority ·))
  let (path, query) := splitMark '?' rest
  return {
    scheme := scheme
    user := encode notInUser user
    password := encode notInUser (password.getD [])
    host := host
    port := port
    path := pathOf path
    query := query.map (encode notInQuery)
    fragment := fragment.map (encode notInFragment) }

end SearchBridge.Url
