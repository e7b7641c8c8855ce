import SearchBridge.Numeric.Decimal
import SearchBridge.Table

/-!
# JSON values

A number is an integer, kept exactly, or a finite double. An object is the list of its entries as
they were written, so that order and repeated keys can be seen; `Json.merged` gives each object
the reading in which a repeated key stands at its first place with its last value.
-/

namespace SearchBridge

/-- A JSON number: a whole number in the range of 64-bit words, or a finite double. -/
inductive Json.Number where
  | integer (value : Int)
  | float (value : Binary64.Finite)
  deriving DecidableEq

/-- A JSON value; an object lists its entries in order. -/
inductive Json where
  | null
  | bool (value : Bool)
  | number (value : Json.Number)
  | string (value : String)
  | array (items : List Json)
  | object (entries : List (String × Json))

namespace Json

instance : Inhabited Json := ⟨.null⟩

/-- An integer as a JSON value. -/
def int (n : Int) : Json := .number (.integer n)

/-- A natural number as a JSON value. -/
def nat (n : Nat) : Json := int n

/-- A list of texts as a JSON value. -/
def strings (texts : List String) : Json := .array (texts.map .string)

/-- A double as a JSON value; an infinity and an invalid result have no number and are `null`. -/
def double : Binary64 → Json
  | .finite x => .number (.float x)
  | _ => .null

/-- An optional value, `null` when absent. -/
def orNull {α : Type} (encode : α → Json) : Option α → Json
  | none => .null
  | some x => encode x

/-- The entry for an optional value, none when it is absent. -/
def whenSome {α : Type} (key : String) (encode : α → Json) : Option α → List (String × Json)
  | none => []
  | some x => [(key, encode x)]

/-- The entry for a list of values, none when the list is empty. -/
def whenNonempty {α : Type} (key : String) (encode : List α → Json) :
    List α → List (String × Json)
  | [] => []
  | x :: xs => [(key, encode (x :: xs))]

/-- The entries of an object. -/
def entries? : Json → Option (List (String × Json))
  | .object entries => some entries
  | _ => none

/-- The text of a string. -/
def text? : Json → Option String
  | .string s => some s
  | _ => none

/-- An object. -/
def isObject : Json → Bool
  | .object _ => true
  | _ => false

/-- The value under a key of an object. -/
def get? (v : Json) (key : String) : Option Json :=
  v.entries?.bind fun entries => Table.get? entries key

/-- The word written as a non-negative integer. -/
def word? : Json → Option UInt64
  | .number (.integer n) =>
    if 0 ≤ n ∧ n < UInt64.size then some (UInt64.ofNat n.toNat) else none
  | _ => none

/-- The double nearest to a number. -/
def Number.toBinary64 : Number → Binary64
  | .integer n => .ofInt n
  | .float x => .finite x

mutual

/-- The value in which a repeated key of an object stands at its first place with its last
value. -/
def merged : Json → Json
  | .null => .null
  | .bool b => .bool b
  | .number n => .number n
  | .string s => .string s
  | .array items => .array (mergedItems items)
  | .object entries => .object (Table.ofEntries (mergedEntries entries))

/-- `Json.merged` on every item. -/
def mergedItems : List Json → List Json
  | [] => []
  | v :: rest => v.merged :: mergedItems rest

/-- `Json.merged` on every entry's value. -/
def mergedEntries : List (String × Json) → List (String × Json)
  | [] => []
  | (k, v) :: rest => (k, v.merged) :: mergedEntries rest

end

mutual

/-- Whether the keys of every object in a value are pairwise distinct. -/
def keysDistinct : Json → Bool
  | .array items => itemsDistinct items
  | .object entries => decide (Table.keys entries).Nodup && entriesDistinct entries
  | _ => true

/-- `Json.keysDistinct` of every item. -/
def itemsDistinct : List Json → Bool
  | [] => true
  | v :: rest => v.keysDistinct && itemsDistinct rest

/-- `Json.keysDistinct` of every entry's value. -/
def entriesDistinct : List (String × Json) → Bool
  | [] => true
  | (_, v) :: rest => v.keysDistinct && entriesDistinct rest

end

end Json

end SearchBridge
