import SearchBridge.Body.Aggregation
import SearchBridge.Catalog.Basic
import SearchBridge.Query.Json
import SearchBridge.Request

/-!
# Search bodies

The engine's form of a search: an index to search in and a body whose parts are all optional. The
body is written without its index, which is part of the address.

The engine orders documents by sort clauses: by a field, by score or by distance. A sort criterion
with a location becomes a clause on distance whatever its field is called; one on the field `score`
in any case becomes a clause on the score.
-/

namespace SearchBridge

/-! ### Sort clauses -/

/-- The direction of an order. -/
inductive SortOrder where
  | ascending
  | descending
  deriving DecidableEq

/-- A sort clause. -/
inductive SortClause where
  | field (field : String) (order : SortOrder) (missing : Option String)
      (unmappedType : Option FieldType)
  | score (order : SortOrder)
  | geoDistance (field : String) (points : List GeoPoint) (order : SortOrder)
  deriving DecidableEq

/-- The order of a criterion that may be descending. -/
def SortOrder.ofDescending (isDescending : Bool) : SortOrder :=
  if isDescending then .descending else .ascending

/-- The engine's name of an order. -/
def SortOrder.toJson : SortOrder → Json
  | .ascending => .string "asc"
  | .descending => .string "desc"

/-- The JSON of a sort clause. -/
def SortClause.toJson : SortClause → Json
  | .field name order missing unmappedType =>
    .object [(name, .object ([("order", order.toJson)] ++
      Json.whenSome "missing" .string missing ++
      Json.whenSome "unmapped_type" (fun t => .string (FieldType.name t)) unmappedType))]
  | .score order => .object [("_score", .object [("order", order.toJson)])]
  | .geoDistance name points order =>
    .object [("_geo_distance", .object [(name, .array (points.map GeoPoint.toLatLon)),
      ("order", order.toJson), ("unit", .string "km")])]

namespace SortField

/-- Whether the field's name is that of the score. -/
def isScore (s : SortField) : Bool := Text.lowerAscii s.fieldName == "score"

/-- The clause of a criterion. A document without the field comes last, and a field that the index
does not declare sorts as a number. -/
def toClause (s : SortField) : SortClause :=
  let order := SortOrder.ofDescending s.isDescending
  match s.location with
  | some location => .geoDistance (SearchBridge.fieldName s.fieldName) [location] order
  | none =>
    if s.isScore then .score order
    else .field (SearchBridge.fieldName s.fieldName) order (some "_last") (some .long)

end SortField

/-! ### Bodies -/

/-- A search as the engine takes it. -/
structure SearchBody where
  index : String
  query : Option Query := none
  postFilter : Option Query := none
  aggregations : Option (Table Aggregation) := none
  sort : Option (List SortClause) := none
  start : Option Int64 := none
  size : Option Int64 := none
  trackScores : Option Bool := none
  trackTotalHits : Option Bool := none
  sourceIncludes : Option (List String) := none

/-- The JSON of a body; absent parts are left out. -/
def SearchBody.toJson (b : SearchBody) : Json :=
  .object (
    Json.whenSome "query" Query.toJson b.query ++
    Json.whenSome "post_filter" Query.toJson b.postFilter ++
    Json.whenSome "aggs" Aggregation.tableJson b.aggregations ++
    Json.whenSome "sort" (fun s => .array (s.map SortClause.toJson)) b.sort ++
    Json.whenSome "from" (fun n => .int (Int64.toInt n)) b.start ++
    Json.whenSome "size" (fun n => .int (Int64.toInt n)) b.size ++
    Json.whenSome "track_scores" .bool b.trackScores ++
    Json.whenSome "track_total_hits" .bool b.trackTotalHits ++
    Json.whenSome "_source" (fun f => .object [("includes", .strings f)]) b.sourceIncludes)

end SearchBridge
