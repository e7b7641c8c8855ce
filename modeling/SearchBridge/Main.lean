import Std.Async.DNS
import Std.Async.TCP
import Std.Async.Timer
import SearchBridge.CommandLine.Program
import SearchBridge.Http.Wire

/-!
# The executable

The program over real files, real variables and plain connections to servers.
-/

open Std.Async Std.Net

namespace SearchBridge.Executable

/-! ## The wire -/

/-- The addresses of a host. -/
def addresses : Url.Host → Async (List IPAddr)
  | .short n =>
    let byte (shift : Nat) : UInt8 := (n >>> shift).toUInt8
    return [.v4 (.ofParts (byte 24) (byte 16) (byte 8) (byte 0))]
  | .long pieces =>
    return [.v6 ⟨Vector.ofFn fun i => (pieces.getD i.val 0).toUInt16⟩]
  | .domain name => do
    let service := "http"
    return (← DNS.getAddrInfo (String.ofList name) service none).toList

/-- An address with a port. -/
def socketAddress (port : UInt16) : IPAddr → SocketAddress
  | .v4 a => .v4 ⟨a, port⟩
  | .v6 a => .v6 ⟨a, port⟩

/-- The bytes that a server sends until it closes the connection. -/
partial def receive (c : TCP.Socket.Client) (bytes : ByteArray) : Async ByteArray := do
  match ← c.recv? 65536 with
  | some more => receive c (bytes ++ more)
  | none => return bytes

/-- Sends a request and waits for its reply. -/
def exchange (r : Http.Request) : Async (Option Http.Reply) := do
  let port := r.address.port.getD r.address.scheme.defaultPort
  match ← addresses r.address.host with
  | [] => return none
  | address :: _ =>
    let c ← TCP.Socket.Client.mk
    c.connect (socketAddress port.toUInt16 address)
    c.send r.wireText.toUTF8
    return Http.Reply.ofWire? (← receive c .empty).toList

/-- Nothing, after so many milliseconds. -/
def giveUp (milliseconds : Nat) : Async (Option Http.Reply) := do
  sleep (.ofNat milliseconds)
  return none

/-- Plain connections; servers that ask for secure ones are out of reach. -/
def transport : Http.Transport IO := fun r => do
  match r.address.scheme with
  | .https => return none
  | .http =>
    try (Async.race (exchange r) (giveUp r.timeout)).block
    catch _ => return none

/-! ## Files and variables -/

/-- The files that exist among those with the given paths. -/
def readFiles (paths : List String) : IO Directory :=
  paths.filterMapM fun (path : String) => do
    try return some (path, ← IO.FS.readFile path)
    catch _ => return none

/-- The variables of the environment. -/
def readEnvironment : IO Environment := do
  try
    let text ← IO.FS.readFile "/proc/self/environ"
    return (text.splitOn "\x00").filterMap fun entry =>
      match entry.splitOn "=" with
      | name :: value :: more => some (name, "=".intercalate (value :: more))
      | _ => none
  catch _ => return []

/-- Everything that a run with the given arguments may read. -/
def surroundings (arguments : List String) : IO (Surroundings IO) := do
  let environment ← readEnvironment
  let start : Surroundings IO := ⟨← readFiles [Program.variablesPath], environment, transport⟩
  let paths := Program.paths (Program.withVariables start).environment arguments
  return { start with directory := start.directory ++ (← readFiles paths) }

end SearchBridge.Executable

/-- Runs the program with the given arguments. -/
def main (arguments : List String) : IO UInt32 := do
  let outcome ← SearchBridge.Program.run
    (← SearchBridge.Executable.surroundings arguments) arguments
  IO.print outcome.output
  match outcome.failure with
  | some failure => IO.eprintln ("Error: " ++ failure)
  | none => pure ()
  return outcome.exitCode
