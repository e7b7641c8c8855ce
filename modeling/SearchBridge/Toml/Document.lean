import SearchBridge.Toml.Scalar
import SearchBridge.Table

/-!
# TOML documents

A document is a sequence of lines that define keys and open tables. Every path may be defined once,
and a table that a header opened may not be extended by dotted keys. `Document.ofText?` gives the
entries of the root table; of an entry with parts only its kind is kept.
-/

namespace SearchBridge.Toml

/-- A value. -/
inductive Value where
  | scalar (value : Scalar)
  | array
  | table (isEmpty : Bool)
  deriving DecidableEq

/-- A step of a path: into a named entry, or into an element of a list of tables. -/
inductive Step where
  | key (name : String)
  | element (position : Nat)
  deriving DecidableEq

/-- What a path is defined as. -/
inductive Definition where
  | value (value : Value)
  /-- A table that a header names on its way. -/
  | implied
  /-- A table that a dotted key names on its way. -/
  | dotted
  /-- A table that a header opened. -/
  | opened
  /-- A list of tables. -/
  | tables (count : Nat)
  deriving DecidableEq

/-- The definitions so far, the latest first. -/
abbrev Definitions := List (List Step × Definition)

/-- Walks along the keys below a path and defines the missing tables. A dotted key may not pass
through a table that a header opened. -/
def descend (isDotted : Bool) :
    Definitions → List Step → List String → Option (Definitions × List Step)
  | ds, path, [] => some (ds, path)
  | ds, path, name :: names =>
    let next := path ++ [.key name]
    match ds.lookup next with
    | none => descend isDotted ((next, if isDotted then .dotted else .implied) :: ds) next names
    | some (.value _) => none
    | some (.tables count) => descend isDotted ds (next ++ [.element (count - 1)]) names
    | some .opened => if isDotted then none else descend isDotted ds next names
    | some .implied => descend isDotted ds next names
    | some .dotted => descend isDotted ds next names

/-- Defines a key below a table. -/
def define? (ds : Definitions) (table : List Step) (keys : List String) (value : Value) :
    Option Definitions := do
  let last ← keys.getLast?
  let (ds, path) ← descend true ds table keys.dropLast
  guard (path = table ∨ ds.lookup path = some .dotted)
  let path := path ++ [.key last]
  guard (ds.lookup path).isNone
  return (path, .value value) :: ds

/-- Opens the table of a header. -/
def openTable? (ds : Definitions) (keys : List String) : Option (Definitions × List Step) := do
  let last ← keys.getLast?
  let (ds, path) ← descend false ds [] keys.dropLast
  let path := path ++ [.key last]
  match ds.lookup path with
  | none => return ((path, .opened) :: ds, path)
  | some .implied => return ((path, .opened) :: ds, path)
  | _ => none

/-- Opens the next table of a list of tables. -/
def openElement? (ds : Definitions) (keys : List String) :
    Option (Definitions × List Step) := do
  let last ← keys.getLast?
  let (ds, path) ← descend false ds [] keys.dropLast
  let path := path ++ [.key last]
  match ds.lookup path with
  | none => return ((path, .tables 1) :: ds, path ++ [.element 0])
  | some (.tables count) =>
    return ((path, .tables (count + 1)) :: ds, path ++ [.element count])
  | _ => none

/-- The characters after a character that has to come next. -/
def expect? (c : Char) : List Char → Option (List Char)
  | [] => none
  | d :: rest => if d = c then some rest else none

mutual

/-- A value and the characters after it. `depth` bounds the nesting, and `fuel` the length of a
list. -/
def value? : Nat → Nat → List Char → Option (Value × List Char)
  | 0, _, _ => none
  | depth + 1, fuel, cs =>
    match cs with
    | '[' :: rest => (arrayItems? depth fuel rest).map fun rest => (.array, rest)
    | '\x7b' :: rest =>
      match skipSpaces rest with
      | '\x7d' :: rest => some (.table true, rest)
      | _ => (inlineEntries? depth fuel [] rest).map fun rest => (.table false, rest)
    | _ => (scalarValue? cs).map fun (v, rest) => (.scalar v, rest)
termination_by depth fuel => (depth, fuel)

/-- The characters after the items of an array. -/
def arrayItems? (depth : Nat) : Nat → List Char → Option (List Char)
  | 0, _ => none
  | fuel + 1, cs =>
    match skipLines cs.length cs with
    | ']' :: rest => some rest
    | cs => do
      let (_, rest) ← value? depth fuel cs
      match skipLines rest.length rest with
      | ',' :: rest => arrayItems? depth fuel rest
      | rest => expect? ']' rest
termination_by fuel => (depth, fuel + 1)

/-- The characters after the entries of a table on one line. -/
def inlineEntries? (depth : Nat) : Nat → Definitions → List Char → Option (List Char)
  | 0, _, _ => none
  | fuel + 1, ds, cs => do
    let (keys, rest) ← key? cs.length cs
    let rest ← expect? '=' rest
    let (v, rest) ← value? depth fuel (skipSpaces rest)
    let ds ← define? ds [] keys v
    match skipSpaces rest with
    | ',' :: rest => inlineEntries? depth fuel ds rest
    | rest => expect? '\x7d' rest
termination_by fuel => (depth, fuel + 1)

end

/-- The levels of arrays and tables that a value may have. -/
def maximalDepth : Nat := 80

/-- A document as far as it was read: its definitions, and the table that keys are defined in. -/
structure Document where
  definitions : Definitions := []
  current : List Step := []

namespace Document

/-- Reads one line. -/
def line? (d : Document) (cs : List Char) : Option (Document × List Char) :=
  match skipSpaces cs with
  | '[' :: '[' :: rest => do
    let (keys, rest) ← key? rest.length rest
    let rest ← lineEnd? (← expect? ']' (← expect? ']' rest))
    let (ds, path) ← openElement? d.definitions keys
    return (⟨ds, path⟩, rest)
  | '[' :: rest => do
    let (keys, rest) ← key? rest.length rest
    let rest ← lineEnd? (← expect? ']' rest)
    let (ds, path) ← openTable? d.definitions keys
    return (⟨ds, path⟩, rest)
  | cs =>
    match lineEnd? cs with
    | some rest => some (d, rest)
    | none => do
      let (keys, rest) ← key? cs.length cs
      let rest ← expect? '=' rest
      let (v, rest) ← value? (maximalDepth + 1) rest.length (skipSpaces rest)
      let rest ← lineEnd? rest
      return ({ d with definitions := ← define? d.definitions d.current keys v }, rest)

/-- Reads lines to the end; `fuel` bounds their number. -/
def lines? : Nat → Document → List Char → Option Document
  | 0, _, _ => none
  | _, d, [] => some d
  | fuel + 1, d, cs => do
    let (d, rest) ← d.line? cs
    lines? fuel d rest

/-- The entry that the definition of a path gives the root table: paths with one key. -/
def rootEntryOf (d : Document) : List Step × Definition → Option (String × Value)
  | ([.key name], .value v) => some (name, v)
  | ([.key _], .tables _) => none
  | ([.key name], _) =>
    let below := d.definitions.any fun e => e.1.length == 2 && e.1.take 1 == [.key name]
    some (name, .table (!below))
  | _ => none

/-- The entry of a list of tables. -/
def listEntryOf : List Step × Definition → Option (String × Value)
  | ([.key name], .tables _) => some (name, .array)
  | _ => none

/-- The entries of the root table in the order of their definition. -/
def entries (d : Document) : Table Value :=
  Table.ofEntries (d.definitions.reverse.filterMap fun e => (d.rootEntryOf e).or (listEntryOf e))

/-- The entries of the root table of a document; a byte order mark may precede it. -/
def ofText? (text : String) : Option (Table Value) := do
  let cs := text.toList
  let cs := if cs.head? = some (Char.ofNat 0xFEFF) then cs.drop 1 else cs
  let d ← lines? (cs.length + 1) {} cs
  return d.entries

end Document

end SearchBridge.Toml
