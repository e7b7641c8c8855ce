import SearchBridge.Http.Basic
import SearchBridge.Json.Writer
import SearchBridge.Text.Lowercase

/-!
# Messages on the wire

The text of a request, after whose reply the server is to close the connection, and the reply that
the bytes up to the close hold. A reply comes in one piece or in chunks, each after its size.
-/

namespace SearchBridge.Http

/-! ## Requests -/

/-- The headers of a request with the given content. -/
def Request.headers (r : Request) (content : Option String) : List (String × String) :=
  [("Host", r.address.host.text ++ r.address.portText), ("Accept", "*/*"),
    ("Connection", "close")] ++
  (r.credentials.map fun c => ("Authorization", c.header)).toList ++
  match content with
  | some text =>
    [("Content-Type", "application/json"), ("Content-Length", toString text.utf8ByteSize)]
  | none => []

/-- The text of a request. Compression of the reply, which a request accepts, is not asked for. -/
def Request.wireText (r : Request) : String :=
  let content := r.content.map Json.compact
  let head := (r.method.name ++ " " ++ r.address.target ++ " HTTP/1.1") ::
    (r.headers content).map fun h => h.1 ++ ": " ++ h.2
  "\r\n".intercalate (head ++ ["", content.getD ""])

/-! ## Replies -/

/-- The bytes of the first line without its break, and the bytes after it. -/
def splitLine? : List UInt8 → Option (List UInt8 × List UInt8)
  | [] => none
  | 13 :: 10 :: rest => some ([], rest)
  | b :: rest => (splitLine? rest).map fun (line, rest) => (b :: line, rest)

/-- The lines of the head up to an empty one, and the bytes after them; `fuel` bounds the number of
lines. -/
def splitHead? : Nat → List UInt8 → Option (List String × List UInt8)
  | 0, _ => none
  | fuel + 1, bytes => do
    let (line, rest) ← splitLine? bytes
    if line.isEmpty then return ([], rest)
    let text ← Utf8.text? line
    let (lines, rest) ← splitHead? fuel rest
    return (text :: lines, rest)

/-- The status code in the first line of a reply. -/
def status? (line : String) : Option Nat :=
  match line.splitOn " " with
  | _ :: code :: _ => Literal.digits? code.toList
  | _ => none

/-- Whether headers announce chunks. -/
def isChunked (headers : List String) : Bool :=
  headers.any fun h =>
    match (Text.lowerAscii h).splitOn ":" with
    | [name, value] => name == "transfer-encoding" && Text.trim value == "chunked"
    | _ => false

/-- The content of chunks, the last of which is empty; `fuel` bounds their number. -/
def unchunk? : Nat → List UInt8 → Option (List UInt8)
  | 0, _ => none
  | fuel + 1, bytes => do
    let (line, rest) ← splitLine? bytes
    let size ← Hex.number? ((← Utf8.text? line).toList.takeWhile fun c => (Hex.value? c).isSome)
    if size = 0 then return []
    guard (size ≤ rest.length)
    let (_, after) ← splitLine? (rest.drop size)
    return rest.take size ++ (← unchunk? fuel after)

/-- The text of bytes, in which a byte that belongs to no character becomes the replacement
character. -/
def lossyText (bytes : List UInt8) : String :=
  String.ofList ((Utf8.decode bytes).map (·.getD '\ufffd'))

/-- The reply that bytes hold. -/
def Reply.ofWire? (bytes : List UInt8) : Option Reply := do
  let (lines, rest) ← splitHead? bytes.length bytes
  let status ← status? (← lines.head?)
  let body ← if isChunked lines.tail then unchunk? rest.length rest else some rest
  return ⟨status, lossyText body⟩

end SearchBridge.Http
