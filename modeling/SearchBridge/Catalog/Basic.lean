import SearchBridge.FieldName

/-!
# Catalogs of fields

A catalog tells the type of each field of an index and whether the field has a sibling with
unchanged values. Fields are found by any spelling whose lower-case form is the field's name in the
index.
-/

namespace SearchBridge

/-- The type of a field. -/
inductive FieldType where
  | text
  | keyword
  | boolean
  | long
  | integer
  | short
  | byte
  | double
  | float
  | date
  | geoPoint
  | object
  | nested
  /-- A type without a meaning of its own here. -/
  | other (name : String)
  deriving DecidableEq

namespace FieldType

/-- The types with a meaning of their own, by name. -/
def known : List (String × FieldType) := [
  ("text", .text), ("keyword", .keyword), ("boolean", .boolean), ("long", .long),
  ("integer", .integer), ("short", .short), ("byte", .byte), ("double", .double),
  ("float", .float), ("date", .date), ("geo_point", .geoPoint), ("object", .object),
  ("nested", .nested)]

/-- The type with a name; ASCII letters may be in either case. -/
def ofName (name : String) : FieldType :=
  let name := Text.lowerAscii name
  (known.lookup name).getD (.other name)

/-- The name of a type. -/
def name : FieldType → String
  | .text => "text"
  | .keyword => "keyword"
  | .boolean => "boolean"
  | .long => "long"
  | .integer => "integer"
  | .short => "short"
  | .byte => "byte"
  | .double => "double"
  | .float => "float"
  | .date => "date"
  | .geoPoint => "geo_point"
  | .object => "object"
  | .nested => "nested"
  | .other name => name

/-- A type without a meaning of its own. -/
def isOther : FieldType → Bool
  | .other _ => true
  | _ => false

end FieldType

/-- What a catalog knows about a field. -/
structure FieldDescriptor where
  type : FieldType
  hasRawSibling : Bool := false
  deriving DecidableEq

/-- What is known about the fields of an index, by their names in the index. -/
structure Catalog where
  fields : Table FieldDescriptor := []
  deriving DecidableEq

namespace Catalog

/-- The catalog without fields. -/
def empty : Catalog := {}

/-- Declares a field, replacing what was known about it. -/
def insert (c : Catalog) (name : String) (descriptor : FieldDescriptor) : Catalog where
  fields := c.fields.put (fieldName name) descriptor

/-- What is known about a field. -/
def lookup (c : Catalog) (name : String) : Option FieldDescriptor :=
  c.fields.get? (fieldName name)

/-- Whether a field is declared boolean. -/
def isBoolean (c : Catalog) (name : String) : Bool :=
  match c.lookup name with
  | some d => d.type == .boolean
  | none => false

/-- Whether a field is declared with a sibling that holds unchanged values. -/
def hasRawSibling (c : Catalog) (name : String) : Bool :=
  match c.lookup name with
  | some d => d.hasRawSibling
  | none => false

/-- The number of declared fields. -/
def size (c : Catalog) : Nat := c.fields.length

end Catalog

end SearchBridge
