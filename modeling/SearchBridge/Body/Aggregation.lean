import SearchBridge.Facet
import SearchBridge.Filter.Lowering
import SearchBridge.Query.Json

/-!
# Aggregations

The engine counts documents by named aggregations. A facet on terms becomes a terms aggregation
under the facet's name, wrapped in a filter aggregation of the same name if the facet has a filter.
A facet on intervals becomes one filter aggregation an interval. Of several aggregations with one
key the first is kept.
-/

namespace SearchBridge

/-- A named aggregation's definition. -/
inductive Aggregation where
  /-- Counts the documents for each term of a field. -/
  | terms (field : String) (size : Option UInt32) (allowed : Option (List String))
  /-- Counts the documents of a query, which its own aggregations count further. -/
  | filter (query : Query) (nested : List (String × Aggregation))

namespace Aggregation

mutual

/-- The JSON of an aggregation. -/
def toJson : Aggregation → Json
  | .terms field size values =>
    .object [("terms", .object ([("field", .string field)] ++
      Json.whenSome "size" (fun n => .nat n.toNat) size ++
      Json.whenSome "include" .strings values))]
  | .filter query nested =>
    .object ([("filter", query.toJson)] ++
      Json.whenNonempty "aggs" .object (tableEntries nested))

/-- The JSON entries of named aggregations. -/
def tableEntries : List (String × Aggregation) → List (String × Json)
  | [] => []
  | (key, a) :: rest => (key, toJson a) :: tableEntries rest

end

end Aggregation

namespace Facet

/-- The number of terms to count when a facet sets no positive bound. -/
def unboundedSize : UInt32 := 2147483647

/-- The number of terms to count. -/
def termCount (size : Option Int32) : UInt32 :=
  match size with
  | some n => if 0 < n then n.toInt.toNat.toUInt32 else unboundedSize
  | none => unboundedSize

/-- The field whose values are counted: the sibling with unchanged values if there is one. -/
def targetField (catalog : Catalog) (f : Facet) : String :=
  let name := SearchBridge.fieldName f.fieldName
  if catalog.hasRawSibling name then rawFieldName name else name

/-- The query that restricts the counted documents, if any. -/
def scope? (catalog : Catalog) (f : Facet) : Option Query := f.filter.bind (·.lower? catalog)

/-- The aggregation on terms, none without a field. -/
def termsAggregation? (target : String) (size : Option Int32) (values : Option (List String)) :
    Option Aggregation :=
  if target.isEmpty then none
  else some (.terms target (some (termCount size)) (values.filter fun vs => !vs.isEmpty))

/-- The aggregations of a facet with their keys. -/
def entries (catalog : Catalog) (f : Facet) : List (String × Aggregation) :=
  let target := f.targetField catalog
  let scope := f.scope? catalog
  match f.counted with
  | .terms size values =>
    match scope, termsAggregation? target size values with
    | none, none => []
    | none, some terms => [(f.effectiveId, terms)]
    | some query, terms =>
      [(f.effectiveId, .filter query (terms.toList.map fun a => (f.effectiveId, a)))]
  | .intervals values =>
    values.map fun v =>
      (intervalKey f.effectiveId v.id,
        .filter (.bool (Filter.intervalQuery target v.interval :: scope.toList) [] [] none) [])

end Facet

/-- The named aggregations of facets: of entries with one key the first is kept. -/
def aggregationTable (catalog : Catalog) (facets : List Facet) : Table Aggregation :=
  (facets.flatMap (·.entries catalog)).foldl (fun t e => t.putNew e.1 e.2) []

/-- The named aggregations of facets, nothing if there are none. -/
def aggregations? (catalog : Catalog) (facets : List Facet) : Option (Table Aggregation) :=
  match aggregationTable catalog facets with
  | [] => none
  | t => some t

/-- The JSON of named aggregations. -/
def Aggregation.tableJson (t : Table Aggregation) : Json := .object (tableEntries t)

end SearchBridge
