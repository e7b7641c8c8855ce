import SearchBridge.Json.Basic

/-!
# Counts in the engine's results

A result does not tell what kind of aggregation its counts come from, so they are classified by
shape. An object with a count of documents is a single bucket, and its entries that are objects
are the aggregations below it, whatever they are called. Another object with `buckets` is a list
of buckets, given in an array or under their keys. Anything else carries no counts.
-/

namespace SearchBridge

/-- The documents that share a key. -/
structure Bucket where
  key : Json
  keyText : Option String
  docCount : UInt64

/-- The counts of one aggregation. -/
inductive Aggregate where
  | buckets (buckets : List Bucket)
  | single (docCount : UInt64) (nested : List (String × Aggregate))
  | other (value : Json)

namespace Bucket

/-- The bucket that an object describes; a bucket given under a key may leave its key out. -/
def ofObject? (mapKey : Option String) : Json → Option Bucket
  | .object entries => do
    let key ← match Table.get? entries "key" with
      | some key => some key
      | none => mapKey.map .string
    return {
      key := key
      keyText := (Table.get? entries "key_as_string").bind Json.text?
      docCount := ((Table.get? entries "doc_count").bind Json.word?).getD 0 }
  | _ => none

/-- The buckets that a value describes; what describes no bucket is left out. -/
def listOf : Json → List Bucket
  | .array items => items.filterMap (ofObject? none)
  | .object entries => entries.filterMap fun e => ofObject? (some e.1) e.2
  | _ => []

end Bucket

namespace Aggregate

mutual

/-- The counts that a value describes. -/
def ofJson : Json → Aggregate
  | .object entries =>
    match (Table.get? entries "doc_count").bind Json.word? with
    | some docCount => .single docCount (Table.ofEntries (nestedIn entries))
    | none =>
      match Table.get? entries "buckets" with
      | some listed => .buckets (Bucket.listOf listed)
      | none => .other (.object entries)
  | v => .other v

/-- The counts below a single bucket. -/
def nestedIn : List (String × Json) → List (String × Aggregate)
  | [] => []
  | (name, v) :: rest =>
    if v.isObject then (name, ofJson v) :: nestedIn rest else nestedIn rest

end

end Aggregate

end SearchBridge
