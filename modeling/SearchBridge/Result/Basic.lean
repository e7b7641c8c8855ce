import SearchBridge.Json.Record
import SearchBridge.Result.Aggregate

/-!
# The engine's results

The parts of an answer to a search that matter here: the total, the hits and the named counts. All
other parts of the JSON are passed over.
-/

namespace SearchBridge

/-- The number of matching documents: a bare count, or one with a remark on its exactness. -/
inductive TotalHits where
  | count (value : UInt64)
  | tracked (value : UInt64) (relation : Option String)
  deriving DecidableEq

/-- The number of matching documents. -/
def TotalHits.value : TotalHits → UInt64
  | .count value => value
  | .tracked value _ => value

/-- A matching document, with its source or selected fields. -/
structure Hit where
  index : Option String := none
  id : String := ""
  score : Option Binary64 := none
  source : Option (Table Json) := none
  fields : Option (Table Json) := none

/-- The page of hits of a result. -/
structure HitPage where
  total : Option TotalHits := none
  maxScore : Option Binary64 := none
  hits : List Hit := []

/-- An answer to a search. -/
structure SearchResult where
  took : Option UInt64 := none
  timedOut : Bool := false
  page : HitPage := {}
  aggregations : Table Aggregate := []

/-- The number of matching documents, zero if the answer does not tell it. -/
def SearchResult.total (r : SearchResult) : UInt64 := (r.page.total.map TotalHits.value).getD 0

open Json Json.Raw

namespace TotalHits

/-- The fields of a total with a remark in JSON. -/
def trackedFields : List (RecordField (UInt64 × Option String)) := [
  .mandatory "value" readUInt64 fun x t => (x, t.2),
  .optional "relation" (readOption readText) fun x t => (t.1, x)]

/-- The total that a value gives: a bare count, or an object. -/
def ofJson? (v : Json) : Option TotalHits :=
  (v.word?.map .count) <|>
    ((v.raw.readObject trackedFields (0, none)).toOption.map fun t => .tracked t.1 t.2)

/-- Reads a total from JSON. -/
def read (r : Raw) : Except Error TotalHits := do
  match ofJson? (← r.whole) with
  | some t => return t
  | none => throw .mismatch

end TotalHits

namespace Hit

/-- The fields of a hit in JSON. -/
def jsonFields : List (RecordField Hit) := [
  .optional "_index" (readOption readText) fun x h => { h with index := x },
  .mandatory "_id" readText fun x h => { h with id := x },
  .optional "_score" (readOption readDouble) fun x h => { h with score := x },
  .optional "_source" (readOption (readTable Raw.value)) fun x h => { h with source := x },
  .optional "fields" (readOption (readTable Raw.value)) fun x h => { h with fields := x }]

/-- Reads a hit from JSON. -/
def read : Raw → Except Error Hit := readRecord jsonFields {}

end Hit

namespace HitPage

/-- The fields of a page of hits in JSON. -/
def fields : List (RecordField HitPage) := [
  .optional "total" (readOption TotalHits.read) fun x p => { p with total := x },
  .optional "max_score" (readOption readDouble) fun x p => { p with maxScore := x },
  .optional "hits" (readList Hit.read) fun x p => { p with hits := x }]

/-- Reads a page of hits from JSON. -/
def read : Raw → Except Error HitPage := readRecord fields {}

end HitPage

namespace SearchResult

/-- Reads the counts of one aggregation from JSON. -/
def readAggregate (r : Raw) : Except Error Aggregate := r.value.map Aggregate.ofJson

/-- The fields of a result in JSON. -/
def fields : List (RecordField SearchResult) := [
  .optional "took" (readOption readUInt64) fun x r => { r with took := x },
  .optional "timed_out" readBool fun x r => { r with timedOut := x },
  .optional "hits" HitPage.read fun x r => { r with page := x },
  .optional "aggregations" (readTable readAggregate) fun x r => { r with aggregations := x }]

/-- Reads a result from JSON. -/
def read : Raw → Except Error SearchResult := readRecord fields {}

/-- The result that a JSON value describes. -/
def ofJson (v : Json) : Except Error SearchResult := read v.raw

/-- The result that a byte sequence holds as JSON. -/
def ofBytes (bytes : List UInt8) : Except Error SearchResult := decodeBytes read bytes

end SearchResult

end SearchBridge
