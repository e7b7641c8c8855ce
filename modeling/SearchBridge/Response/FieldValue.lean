import SearchBridge.Json.Record

/-!
# Values of document fields

A field of a document holds a value of the same kinds as JSON. `FieldValue.ofJson` turns a JSON
value into one; `FieldValue.decode?` reads one by trying the kinds in turn.
-/

namespace SearchBridge

/-- A value of a document's field; an object lists its entries in order. -/
inductive FieldValue where
  | null
  | bool (value : Bool)
  | number (value : Json.Number)
  | string (value : String)
  | list (items : List FieldValue)
  | object (entries : List (String × FieldValue))

namespace FieldValue

instance : Inhabited FieldValue := ⟨.null⟩

mutual

/-- The field value of a JSON value. -/
def ofJson : Json → FieldValue
  | .null => .null
  | .bool b => .bool b
  | .number n => .number n
  | .string s => .string s
  | .array items => .list (ofItems items)
  | .object entries => .object (Table.ofEntries (ofObject entries))

/-- The field value of every item. -/
def ofItems : List Json → List FieldValue
  | [] => []
  | v :: rest => ofJson v :: ofItems rest

/-- The field value of every entry. -/
def ofObject : List (String × Json) → List (String × FieldValue)
  | [] => []
  | (key, v) :: rest => (key, ofJson v) :: ofObject rest

end

mutual

/-- The JSON of a field value. -/
def toJson : FieldValue → Json
  | .null => .null
  | .bool b => .bool b
  | .number n => .number n
  | .string s => .string s
  | .list items => .array (toItems items)
  | .object entries => .object (toEntries entries)

/-- The JSON of every item. -/
def toItems : List FieldValue → List Json
  | [] => []
  | v :: rest => toJson v :: toItems rest

/-- The JSON of every entry. -/
def toEntries : List (String × FieldValue) → List (String × Json)
  | [] => []
  | (key, v) :: rest => (key, toJson v) :: toEntries rest

end

/-- Reads the missing value. -/
def decodeNull? : Json → Option FieldValue
  | .null => some .null
  | _ => none

/-- Reads a truth value. -/
def decodeBool? : Json → Option FieldValue
  | .bool b => some (.bool b)
  | _ => none

/-- Reads a number. -/
def decodeNumber? : Json → Option FieldValue
  | .number n => some (.number n)
  | _ => none

/-- Reads a text. -/
def decodeString? : Json → Option FieldValue
  | .string s => some (.string s)
  | _ => none

/-- Reads a value without parts by the first kind that fits. -/
def decodeScalar? (v : Json) : Option FieldValue :=
  decodeNull? v <|> decodeBool? v <|> decodeNumber? v <|> decodeString? v

mutual

/-- Reads a value by the first kind that fits. -/
def decode? : Json → Option FieldValue
  | .array items => decodeScalar? (.array items) <|> (decodeItems? items).map .list
  | .object entries =>
    decodeScalar? (.object entries) <|>
      (decodeEntries? entries).map fun es => .object (Table.ofEntries es)
  | v => decodeScalar? v
termination_by structural v => v

/-- Reads every item. -/
def decodeItems? : List Json → Option (List FieldValue)
  | [] => some []
  | v :: rest => do
    let x ← decode? v
    let xs ← decodeItems? rest
    return x :: xs

/-- Reads every entry. -/
def decodeEntries? : List (String × Json) → Option (List (String × FieldValue))
  | [] => some []
  | (key, v) :: rest => do
    let x ← decode? v
    let xs ← decodeEntries? rest
    return (key, x) :: xs

end

/-- Reads a field value from JSON. -/
def read (r : Json.Raw) : Except Json.Error FieldValue := do
  match decode? (← r.whole) with
  | some x => return x
  | none => throw .mismatch

/-- The text of a text value. -/
def text? : FieldValue → Option String
  | .string s => some s
  | _ => none

/-- The items of a list. -/
def items? : FieldValue → Option (List FieldValue)
  | .list items => some items
  | _ => none

/-- The entries of an object. -/
def entries? : FieldValue → Option (List (String × FieldValue))
  | .object entries => some entries
  | _ => none

/-- The missing value. -/
def isNull : FieldValue → Bool
  | .null => true
  | _ => false

mutual

/-- Equality of field values, doubles being compared as numbers. -/
def same : FieldValue → FieldValue → Bool
  | .null, .null => true
  | .bool a, .bool b => a == b
  | .number (.integer m), .number (.integer n) => m == n
  | .number (.float x), .number (.float y) => x.sameNumber y
  | .string s, .string t => s == t
  | .list xs, .list ys => sameItems xs ys
  | .object xs, .object ys => sameEntries xs ys
  | _, _ => false

/-- `FieldValue.same`, item by item. -/
def sameItems : List FieldValue → List FieldValue → Bool
  | [], [] => true
  | x :: xs, y :: ys => same x y && sameItems xs ys
  | _, _ => false

/-- `FieldValue.same` of the values under the same keys in the same order. -/
def sameEntries : List (String × FieldValue) → List (String × FieldValue) → Bool
  | [], [] => true
  | (j, x) :: xs, (k, y) :: ys => j == k && same x y && sameEntries xs ys
  | _, _ => false

end

end FieldValue

end SearchBridge
