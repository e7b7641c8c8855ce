import SearchBridge.Facet
import SearchBridge.FieldName
import SearchBridge.Request
import SearchBridge.Response.Basic
import SearchBridge.Result.Basic

/-!
# Lifting results to responses

A result becomes a response to the request that caused it: the hits become documents, and the
counts are read back under the keys that the request's facets were counted under. Buckets without
documents and facets without buckets are left out, and a total of zero makes the response empty.
-/

namespace SearchBridge

/-- The document of a hit: it has the values of the source, or else of the selected fields. -/
def Hit.document (h : Hit) : Document where
  id := h.id
  fields := Table.ofEntries (FieldValue.ofObject ((h.source.or h.fields).getD []))
  relevanceScore := h.score

/-- The count of a bucket, under the text of its key. -/
def Bucket.facetCount (b : Bucket) : FacetCount where
  id := b.keyText.getD (bucketName b.key)
  count := b.docCount

/-- The counts of the buckets that hold documents. -/
def bucketCounts (buckets : List Bucket) : List FacetCount :=
  (buckets.filter fun b => 0 < b.docCount).map Bucket.facetCount

/-- The counts under a key: those of buckets, also of buckets that a single bucket holds under the
same key, or that of a single bucket alone, reported as `valueId`. -/
def countsUnder (aggregates : Table Aggregate) (key valueId : String) : List FacetCount :=
  match aggregates.get? key with
  | none => []
  | some (.other _) => []
  | some (.buckets buckets) => bucketCounts buckets
  | some (.single docCount nested) =>
    match Table.get? nested key with
    | some (.buckets buckets) => bucketCounts buckets
    | some _ => []
    | none => if 0 < docCount then [⟨valueId, docCount⟩] else []

namespace Facet

/-- The keys under which a facet's counts are found, each with the name to report a lone count
under. -/
def lookups (f : Facet) : List (String × String) :=
  match f.counted with
  | .terms _ _ => [(f.effectiveId, f.effectiveId)]
  | .intervals values => values.map fun v => (intervalKey f.effectiveId v.id, v.id)

/-- The counts of a facet. -/
def counts (aggregates : Table Aggregate) (f : Facet) : List FacetCount :=
  f.lookups.flatMap fun l => countsUnder aggregates l.1 l.2

/-- What a facet contributes to the response: its counts, or nothing if there are none. -/
def result? (aggregates : Table Aggregate) (f : Facet) : Option FacetResult :=
  match f.counts aggregates with
  | [] => none
  | counts => some ⟨f.effectiveId, counts⟩

end Facet

/-- The response of a result to the facets that were requested. -/
def SearchResult.toResponse (r : SearchResult) (facets : List Facet) : SearchResponse :=
  if r.total = 0 then .empty
  else {
    totalCount := r.total
    documents := r.page.hits.map Hit.document
    facets := facets.filterMap (·.result? r.aggregations) }

/-- The response of a result to an optional request; without a request no counts are reported. -/
def SearchResponse.ofResult (r : SearchResult) (request : Option SearchRequest) : SearchResponse :=
  r.toResponse ((request.map SearchRequest.facets).getD [])

end SearchBridge
