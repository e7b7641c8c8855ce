import SearchBridge.Json.Basic

/-!
# JSON as a text shows it

A text need not be JSON throughout, and a reader that looks for certain fields fails only on what
it looks at before the place where the text goes wrong. `Json.Raw` is the tree that reading a text
finds, up to that place. A `broken` leaf is where the text stops being JSON; a leaf that is
`unusable` is well formed but denotes no value, which matters only to a reader that wants it.
Readers of records, lists and words are functions on this tree, so the first trouble in the order
of the text is the one they report. Values are trees without such leaves.
-/

namespace SearchBridge

namespace Json

/-- Why JSON could not be read. -/
inductive Error where
  /-- The text is not JSON. -/
  | malformed
  /-- The text ends too early. -/
  | ended
  /-- The JSON is not of the expected shape. -/
  | mismatch
  /-- A list of fields goes on after the last field. -/
  | surplus
  deriving DecidableEq

/-- The class of an error: in a value, surplus fields are wrong data. -/
def Error.category : Error → String
  | .malformed => "syntax"
  | .ended => "eof"
  | .mismatch => "data"
  | .surplus => "data"

/-- In a text, surplus fields stand where the closing bracket is due. -/
def Error.inText : Error → Error
  | .surplus => .malformed
  | e => e

/-- The tree that reading a text finds. The name of an object's member is `none` when it is no
text, and an `unusable` part carries the error that skipping it meets. -/
inductive Raw where
  | null
  | bool (value : Bool)
  | number (value : Number)
  | string (value : String)
  | array (items : List Raw)
  | object (members : List (Option String × Raw))
  | unusable (inside : Option Error)
  | broken (error : Error)

mutual

/-- A value as a tree. -/
def raw : Json → Raw
  | .null => .null
  | .bool b => .bool b
  | .number n => .number n
  | .string s => .string s
  | .array items => .array (rawItems items)
  | .object entries => .object (rawEntries entries)

/-- The trees of the items. -/
def rawItems : List Json → List Raw
  | [] => []
  | v :: rest => v.raw :: rawItems rest

/-- The members with the trees of their values. -/
def rawEntries : List (String × Json) → List (Option String × Raw)
  | [] => []
  | (k, v) :: rest => (some k, v.raw) :: rawEntries rest

end

namespace Raw

mutual

/-- The error that passing over a tree meets: only a broken text cannot be passed over. -/
def skipError? : Raw → Option Error
  | .array items => skipItems? items
  | .object members => skipMembers? members
  | .unusable inside => inside
  | .broken e => some e
  | _ => none

/-- The first error among the items. -/
def skipItems? : List Raw → Option Error
  | [] => none
  | r :: rest => r.skipError?.or (skipItems? rest)

/-- The first error among the members' values. -/
def skipMembers? : List (Option String × Raw) → Option Error
  | [] => none
  | (_, r) :: rest => r.skipError?.or (skipMembers? rest)

end

/-- The error of a reader that cannot use a tree of this kind. -/
def refusal : Raw → Error
  | .broken e => e
  | .unusable _ => .malformed
  | _ => .mismatch

/-- The error of a member without a name: the break in its name, if there is one. -/
def namelessError : Raw → Error
  | .broken e => e
  | _ => .malformed

mutual

/-- The whole tree as a value, repeated keys included. -/
def whole : Raw → Except Error Json
  | .null => .ok .null
  | .bool b => .ok (.bool b)
  | .number n => .ok (.number n)
  | .string s => .ok (.string s)
  | .array items => (wholeItems items).map .array
  | .object members => (wholeMembers members).map .object
  | .unusable _ => .error .malformed
  | .broken e => .error e

/-- The items as values. -/
def wholeItems : List Raw → Except Error (List Json)
  | [] => .ok []
  | r :: rest => do
    let v ← r.whole
    let vs ← wholeItems rest
    return v :: vs

/-- The members as entries. -/
def wholeMembers : List (Option String × Raw) → Except Error (List (String × Json))
  | [] => .ok []
  | (none, r) :: _ => .error r.namelessError
  | (some k, r) :: rest => do
    let v ← r.whole
    let vs ← wholeMembers rest
    return (k, v) :: vs

end

/-- The value of a tree, each repeated key with its last value. -/
def value (r : Raw) : Except Error Json := r.whole.map Json.merged

/-- A truth value. -/
def readBool : Raw → Except Error Bool
  | .bool b => .ok b
  | r => .error r.refusal

/-- A text. -/
def readText : Raw → Except Error String
  | .string s => .ok s
  | r => .error r.refusal

/-- An integer from `least` to `greatest`; a number with a fraction or an exponent is none. -/
def readInt (least greatest : Int) : Raw → Except Error Int
  | .number (.integer n) => if least ≤ n ∧ n ≤ greatest then .ok n else .error .mismatch
  | r => .error r.refusal

/-- An unsigned 64-bit word. -/
def readUInt64 (r : Raw) : Except Error UInt64 :=
  (r.readInt 0 (UInt64.size - 1)).map fun n => UInt64.ofNat n.toNat

/-- An unsigned 32-bit word. -/
def readUInt32 (r : Raw) : Except Error UInt32 :=
  (r.readInt 0 (UInt32.size - 1)).map fun n => UInt32.ofNat n.toNat

/-- A signed 64-bit word. -/
def readInt64 (r : Raw) : Except Error Int64 :=
  (r.readInt Int64.minValue.toInt Int64.maxValue.toInt).map Int64.ofInt

/-- A signed 32-bit word. -/
def readInt32 (r : Raw) : Except Error Int32 :=
  (r.readInt Int32.minValue.toInt Int32.maxValue.toInt).map Int32.ofInt

/-- A double; an integer is rounded to one. -/
def readDouble : Raw → Except Error Binary64
  | .number n => .ok n.toBinary64
  | r => .error r.refusal

/-- An optional value, `null` when absent. -/
def readOption {α : Type} (read : Raw → Except Error α) : Raw → Except Error (Option α)
  | .null => .ok none
  | r => (read r).map some

/-- A list. -/
def readList {α : Type} (read : Raw → Except Error α) : Raw → Except Error (List α)
  | .array items => items.mapM read
  | r => .error r.refusal

/-- The members of a table in order, repeated keys included. -/
def readMembers {α : Type} (read : Raw → Except Error α) :
    List (Option String × Raw) → Except Error (List (String × α))
  | [] => .ok []
  | (none, r) :: _ => .error r.namelessError
  | (some k, r) :: rest => do
    let x ← read r
    let xs ← readMembers read rest
    return (k, x) :: xs

/-- A table: a repeated key stands at its first place with its last value. -/
def readTable {α : Type} (read : Raw → Except Error α) : Raw → Except Error (Table α)
  | .object members => (readMembers read members).map Table.ofEntries
  | r => .error r.refusal

end Raw

end Json

end SearchBridge
