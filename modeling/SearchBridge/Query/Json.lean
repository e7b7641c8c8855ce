import SearchBridge.Query.Basic

/-!
# Queries in JSON

The engine's written form of queries: an object with one entry, whose key is the kind of query. A
clause on a field has the field's name as a key, so that it may meet a fixed key of the same clause;
both entries are written then.
-/

namespace SearchBridge

/-- The JSON of range bounds; open sides are left out. -/
def RangeBounds.toJson (b : RangeBounds) : Json :=
  .object (Json.whenSome "gt" .string b.gt ++ Json.whenSome "gte" .string b.gte ++
    Json.whenSome "lt" .string b.lt ++ Json.whenSome "lte" .string b.lte)

/-- The engine's own name of automatic fuzziness with its own thresholds. -/
def Fuzziness.toJson : Fuzziness → Json
  | .editDistance distance => .nat distance.toNat
  | .auto thresholds =>
    if thresholds = {} then .string "AUTO"
    else .string ("AUTO:" ++ toString thresholds.low.toNat ++ "," ++
      toString thresholds.high.toNat)

/-- The name of an operator. -/
def Operator.name : Operator → String
  | .and => "and"
  | .or => "or"

/-- The engine's form of a point. -/
def GeoPoint.toLatLon (p : GeoPoint) : Json :=
  .object [("lat", .double p.latitude), ("lon", .double p.longitude)]

/-- The JSON of a clause. -/
def Clause.toJson : Clause → Json
  | .ids values => .object [("ids", .object [("values", .strings values)])]
  | .terms field values => .object [("terms", .object [(field, .strings values)])]
  | .range field bounds => .object [("range", .object [(field, bounds.toJson)])]
  | .geoDistance field centre kilometres =>
    .object [("geo_distance", .object [("distance", .string (kilometres.display ++ "km")),
      (field, centre.toLatLon)])]
  | .wildcard field pattern =>
    .object [("wildcard", .object [(field, .object [("value", .string pattern)])])]
  | .multiMatch text fields analyzer operator fuzziness =>
    .object [("multi_match", .object ([("query", .string text), ("fields", .strings fields)] ++
      Json.whenSome "analyzer" .string analyzer ++ [("operator", .string operator.name)] ++
      Json.whenSome "fuzziness" Fuzziness.toJson fuzziness))]

namespace Query

mutual

/-- The JSON of a query; empty lists of a boolean query are left out. -/
def toJson : Query → Json
  | .matchAll => .object [("match_all", .object [])]
  | .matchNone => .object [("match_none", .object [])]
  | .clause c => c.toJson
  | .bool must should mustNot minimum =>
    .object [("bool", .object (
      Json.whenNonempty "must" .array (toJsonList must) ++
      Json.whenNonempty "should" .array (toJsonList should) ++
      Json.whenNonempty "must_not" .array (toJsonList mustNot) ++
      Json.whenSome "minimum_should_match" (fun n => .nat n.toNat) minimum))]

/-- The JSON of each query. -/
def toJsonList : List Query → List Json
  | [] => []
  | q :: rest => toJson q :: toJsonList rest

end

end Query

end SearchBridge
