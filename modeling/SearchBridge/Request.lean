import SearchBridge.Facet

/-!
# Search requests

A request names the keywords and the fields to look for them in, a filter, the order and the page
of the documents, the facets to count and the fields to return. It does not depend on the engine
that answers it.
-/

namespace SearchBridge

/-- One criterion of the order of documents: a field, or the distance of a field's point from a
location. -/
structure SortField where
  fieldName : String := ""
  isDescending : Bool := false
  location : Option GeoPoint := none
  deriving DecidableEq

/-- A search request. -/
structure SearchRequest where
  keywords : Option String := none
  searchFields : Option (List String) := none
  isFuzzy : Bool := false
  fuzziness : Option UInt32 := none
  filter : Option Filter := none
  sorting : List SortField := []
  skip : Int64 := 0
  take : Int64 := 20
  facets : List Facet := []
  includeFields : Option (List String) := none

namespace SortField

open Json.Raw

/-- The JSON of a sort criterion. -/
def toJson (s : SortField) : Json :=
  .object [("fieldName", .string s.fieldName), ("isDescending", .bool s.isDescending),
    ("location", .orNull GeoPoint.toJson s.location)]

/-- The fields of a sort criterion in JSON. -/
def fields : List (Json.RecordField SortField) := [
  .optional "fieldName" readText fun x s => { s with fieldName := x },
  .optional "isDescending" readBool fun x s => { s with isDescending := x },
  .optional "location" (readOption GeoPoint.read) fun x s => { s with location := x }]

/-- Reads a sort criterion from JSON. -/
def read : Json.Raw → Except Json.Error SortField := readRecord fields {}

end SortField

namespace SearchRequest

open Json.Raw

/-- The JSON of a request; absent parts are `null`. -/
def toJson (r : SearchRequest) : Json :=
  .object [
    ("searchKeywords", .orNull .string r.keywords),
    ("searchFields", .orNull .strings r.searchFields),
    ("isFuzzySearch", .bool r.isFuzzy),
    ("fuzziness", .orNull (fun n => .nat n.toNat) r.fuzziness),
    ("filter", .orNull Filter.toJson r.filter),
    ("sorting", .array (r.sorting.map SortField.toJson)),
    ("skip", .int r.skip.toInt),
    ("take", .int r.take.toInt),
    ("aggregations", .array (r.facets.map Facet.toJson)),
    ("includeFields", .orNull .strings r.includeFields)]

/-- The fields of a request in JSON. -/
def fields : List (Json.RecordField SearchRequest) := [
  .optional "searchKeywords" (readOption readText) fun x r => { r with keywords := x },
  .optional "searchFields" (readOption (readList readText))
    fun x r => { r with searchFields := x },
  .optional "isFuzzySearch" readBool fun x r => { r with isFuzzy := x },
  .optional "fuzziness" (readOption readUInt32) fun x r => { r with fuzziness := x },
  .optional "filter" (readOption Filter.read) fun x r => { r with filter := x },
  .optional "sorting" (readList SortField.read) fun x r => { r with sorting := x },
  .optional "skip" readInt64 fun x r => { r with skip := x },
  .optional "take" readInt64 fun x r => { r with take := x },
  .optional "aggregations" (readList Facet.read) fun x r => { r with facets := x },
  .optional "includeFields" (readOption (readList readText))
    fun x r => { r with includeFields := x }]

/-- Reads a request from JSON. -/
def read : Json.Raw → Except Json.Error SearchRequest := readRecord fields {}

end SearchRequest

end SearchBridge
