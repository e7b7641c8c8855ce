import SearchBridge.Response.FieldValue

/-!
# Search responses

A response tells how many documents match, and gives one page of documents and the counts of the
requested facets. All parts of its JSON may be left out.
-/

namespace SearchBridge

/-- A document with the values of its fields in order. -/
structure Document where
  id : String := ""
  fields : Table FieldValue := []
  relevanceScore : Option Binary64 := none

/-- The number of documents in one bucket of a facet. -/
structure FacetCount where
  id : String := ""
  count : UInt64 := 0
  deriving DecidableEq

/-- The counts of a facet. -/
structure FacetResult where
  id : String := ""
  counts : List FacetCount := []
  deriving DecidableEq

/-- A search response. -/
structure SearchResponse where
  totalCount : UInt64 := 0
  documents : List Document := []
  facets : List FacetResult := []

/-- The response without documents. -/
def SearchResponse.empty : SearchResponse := {}

open Json Json.Raw

namespace Document

/-- Sets the value of a field. -/
def insert (d : Document) (name : String) (value : FieldValue) : Document :=
  { d with fields := d.fields.put name value }

/-- The value of a field. -/
def get? (d : Document) (name : String) : Option FieldValue := d.fields.get? name

/-- The JSON of a document. -/
def toJson (d : Document) : Json :=
  .object [("id", .string d.id), ("fields", .object (FieldValue.toEntries d.fields)),
    ("relevanceScore", .orNull .double d.relevanceScore)]

/-- The fields of a document in JSON. -/
def jsonFields : List (RecordField Document) := [
  .optional "id" readText fun x d => { d with id := x },
  .optional "fields" (readTable FieldValue.read) fun x d => { d with fields := x },
  .optional "relevanceScore" (readOption readDouble) fun x d => { d with relevanceScore := x }]

/-- Reads a document from JSON. -/
def read : Raw → Except Error Document := readRecord jsonFields {}

end Document

namespace FacetCount

/-- The JSON of a count. -/
def toJson (c : FacetCount) : Json :=
  .object [("id", .string c.id), ("count", .nat c.count.toNat)]

/-- The fields of a count in JSON. -/
def fields : List (RecordField FacetCount) := [
  .optional "id" readText fun x c => { c with id := x },
  .optional "count" readUInt64 fun x c => { c with count := x }]

/-- Reads a count from JSON. -/
def read : Raw → Except Error FacetCount := readRecord fields {}

end FacetCount

namespace FacetResult

/-- The JSON of the counts of a facet. -/
def toJson (f : FacetResult) : Json :=
  .object [("id", .string f.id), ("values", .array (f.counts.map FacetCount.toJson))]

/-- The fields of the counts of a facet in JSON. -/
def fields : List (RecordField FacetResult) := [
  .optional "id" readText fun x f => { f with id := x },
  .optional "values" (readList FacetCount.read) fun x f => { f with counts := x }]

/-- Reads the counts of a facet from JSON. -/
def read : Raw → Except Error FacetResult := readRecord fields {}

end FacetResult

namespace SearchResponse

/-- The JSON of a response. -/
def toJson (r : SearchResponse) : Json :=
  .object [("totalCount", .nat r.totalCount.toNat),
    ("documents", .array (r.documents.map Document.toJson)),
    ("aggregations", .array (r.facets.map FacetResult.toJson))]

/-- The fields of a response in JSON. -/
def fields : List (RecordField SearchResponse) := [
  .optional "totalCount" readUInt64 fun x r => { r with totalCount := x },
  .optional "documents" (readList Document.read) fun x r => { r with documents := x },
  .optional "aggregations" (readList FacetResult.read) fun x r => { r with facets := x }]

/-- Reads a response from JSON. -/
def read : Raw → Except Error SearchResponse := readRecord fields {}

end SearchResponse

end SearchBridge
