import SearchBridge.Proofs.Facet.Keys

/-!
# The parts of a response

The facets of a response are put together from one part for each facet of the request. Whatever the
engine sends, a part has at most one entry, and an entry bears the facet's name, is not empty and
counts no bucket without documents. Parts are isolated from each other: a part depends on nothing
but what the engine counted under the facet's own keys.

## Main definitions

* `Facet.part` : what a facet contributes to the facets of a response.
* `Facet.IsPart` : the shape that all contributions of a facet have.
* `Table.AgreeOn` : two tables hold the same under some keys.

## Main results

* `Facet.isPart_part`, `Facet.part_congr` : parts are well formed and isolated.
* `SearchResponse.ofResult_parts` : a response is the sequence of its parts.
-/

namespace SearchBridge

/-- Two tables hold the same under each of the keys. -/
def Table.AgreeOn {α : Type} (keys : List String) (t t' : Table α) : Prop :=
  ∀ key ∈ keys, t.get? key = t'.get? key

/-! ### The counts under a key -/

section Counts

variable {aggregates aggregates' : Table Aggregate} {key valueId : String} {c : FacetCount}

/-- The first of some buckets is counted if it holds documents. -/
theorem bucketCounts_cons (b : Bucket) (bs : List Bucket) : bucketCounts (b :: bs) =
    (if 0 < b.docCount then [b.facetCount] else []) ++ bucketCounts bs := by
  rw [bucketCounts, List.filter_cons]
  by_cases hpos : 0 < b.docCount
  · rw [if_pos (decide_eq_true hpos), if_pos hpos]
    rfl
  · rw [if_neg (mt of_decide_eq_true hpos), if_neg hpos]
    rfl

/-- The buckets that are reported hold documents. -/
theorem count_pos_of_mem_bucketCounts {buckets : List Bucket} (h : c ∈ bucketCounts buckets) :
    0 < c.count := by
  obtain ⟨b, hb, rfl⟩ := List.mem_map.mp h
  exact of_decide_eq_true (List.mem_filter.mp hb).2

/-- No count that is found under a key is zero, whatever the engine sent there. -/
theorem count_pos_of_mem_countsUnder (h : c ∈ countsUnder aggregates key valueId) :
    0 < c.count := by
  revert h
  fun_cases countsUnder aggregates key valueId with
  | case1 => exact fun h => absurd h List.not_mem_nil
  | case2 => exact fun h => absurd h List.not_mem_nil
  | case3 => exact count_pos_of_mem_bucketCounts
  | case4 => exact count_pos_of_mem_bucketCounts
  | case5 => exact fun h => absurd h List.not_mem_nil
  | case6 docCount _ _ _ hpos =>
    intro h
    rw [List.mem_singleton.mp h]
    exact hpos
  | case7 => exact fun h => absurd h List.not_mem_nil

/-- The counts under a key depend on nothing but what is stored under it. -/
theorem countsUnder_congr (h : aggregates.get? key = aggregates'.get? key) :
    countsUnder aggregates key valueId = countsUnder aggregates' key valueId := by
  rw [countsUnder, countsUnder, h]

end Counts

/-! ### The part of one facet -/

/-- Counts under the name of a facet, or nothing if there are none. -/
def FacetResult.ofCounts? (id : String) : List FacetCount → Option FacetResult
  | [] => none
  | c :: counts => some ⟨id, c :: counts⟩

namespace Facet

variable {aggregates aggregates' : Table Aggregate} {f : Facet}

theorem result?_eq_ofCounts? (aggregates : Table Aggregate) (f : Facet) :
    f.result? aggregates = FacetResult.ofCounts? f.effectiveId (f.counts aggregates) := by
  rw [result?]
  cases f.counts aggregates <;> rfl

/-- What a facet contributes to the facets of a response. -/
def part (aggregates : Table Aggregate) (f : Facet) : List FacetResult :=
  (f.result? aggregates).toList

/-- Nothing, or one entry under the facet's name, with counts that are all positive. -/
def IsPart (f : Facet) (part : List FacetResult) : Prop :=
  part = [] ∨ ∃ counts, part = [⟨f.effectiveId, counts⟩] ∧ counts ≠ [] ∧ ∀ c ∈ counts, 0 < c.count

theorem count_pos_of_mem_counts {c : FacetCount} (h : c ∈ f.counts aggregates) : 0 < c.count := by
  obtain ⟨l, _, hc⟩ := List.mem_flatMap.mp h
  exact count_pos_of_mem_countsUnder hc

theorem part_of_counts_eq_nil (h : f.counts aggregates = []) : f.part aggregates = [] := by
  rw [part, result?_eq_ofCounts?, h]
  rfl

theorem part_of_counts_ne_nil (h : f.counts aggregates ≠ []) :
    f.part aggregates = [⟨f.effectiveId, f.counts aggregates⟩] := by
  obtain ⟨c, counts, hcounts⟩ := List.exists_cons_of_ne_nil h
  rw [part, result?_eq_ofCounts?, hcounts]
  rfl

/-- Whatever was counted, a facet contributes nothing or one well-formed entry. -/
theorem isPart_part (aggregates : Table Aggregate) (f : Facet) : f.IsPart (f.part aggregates) := by
  by_cases h : f.counts aggregates = []
  · exact Or.inl (part_of_counts_eq_nil h)
  · exact Or.inr ⟨f.counts aggregates, part_of_counts_ne_nil h, h,
      fun c hc => count_pos_of_mem_counts hc⟩

/-- The counts of a facet depend on nothing but what is stored under its keys. -/
theorem counts_congr (h : Table.AgreeOn f.lookupKeys aggregates aggregates') :
    f.counts aggregates = f.counts aggregates' := by
  rw [counts, counts]
  refine List.flatMap_congr fun l hl => ?_
  have hkey : l.1 ∈ f.lookupKeys := List.mem_map_of_mem hl
  exact countsUnder_congr (h l.1 hkey)

/-- The part of a facet depends on nothing but what is stored under its keys. -/
theorem part_congr (h : Table.AgreeOn f.lookupKeys aggregates aggregates') :
    f.part aggregates = f.part aggregates' := by
  rw [part, part, result?_eq_ofCounts?, result?_eq_ofCounts?, counts_congr h]

end Facet

/-! ### Responses -/

/-- A result without matching documents makes an empty response. -/
theorem SearchResponse.ofResult_of_total_eq_zero {r : SearchResult} (h : r.total = 0)
    (request : Option SearchRequest) : SearchResponse.ofResult r request = .empty :=
  if_pos h

/-- The facets of a response to matching documents are what the requested facets contribute. -/
theorem SearchResult.facets_toResponse {r : SearchResult} (h : r.total ≠ 0) (facets : List Facet) :
    (r.toResponse facets).facets = facets.filterMap (·.result? r.aggregations) := by
  rw [toResponse, if_neg h]

/-- The facets of a response to matching documents are the parts of the requested facets. -/
theorem SearchResponse.facets_ofResult {r : SearchResult} (h : r.total ≠ 0)
    (request : Option SearchRequest) : (SearchResponse.ofResult r request).facets =
      ((request.map SearchRequest.facets).getD []).flatMap (Facet.part r.aggregations) := by
  rw [SearchResponse.ofResult, SearchResult.facets_toResponse h]
  exact List.filterMap_eq_flatMap_toList _ _

/-- **The facets of a response.** A result without matching documents makes an empty response. The
facets of any other response are the parts of the requested facets in their order, and there are
none without a request. Whatever the engine counted, each part is empty or one well-formed entry of
its facet, and results that agree on a facet's keys have the same part for it. -/
theorem SearchResponse.ofResult_parts (r : SearchResult) (request : Option SearchRequest) :
    (r.total = 0 → SearchResponse.ofResult r request = .empty) ∧
    (r.total ≠ 0 → (SearchResponse.ofResult r request).facets =
      ((request.map SearchRequest.facets).getD []).flatMap (Facet.part r.aggregations)) ∧
    (request = none → (SearchResponse.ofResult r request).facets = []) ∧
    ∀ f : Facet, f.IsPart (f.part r.aggregations) ∧
      ∀ r' : SearchResult, Table.AgreeOn f.lookupKeys r.aggregations r'.aggregations →
        f.part r.aggregations = f.part r'.aggregations := by
  refine ⟨fun h => ofResult_of_total_eq_zero h request, fun h => facets_ofResult h request, ?_,
    fun f => ⟨f.isPart_part r.aggregations, fun r' => Facet.part_congr⟩⟩
  rintro rfl
  by_cases h : r.total = 0
  · rw [ofResult_of_total_eq_zero h]
    rfl
  · rw [facets_ofResult h]
    rfl

/-- A bucket without documents is left out, and what is counted under other keys has no
influence. -/
theorem SearchResponse.ofResult_parts_of_empty_bucket :
    let f : Facet := { id := some "brand", counted := .terms none none }
    let brands : Aggregate := .buckets [⟨.string "acme", none, 2⟩, ⟨.string "zeta", none, 0⟩]
    let r : SearchResult := {
      page := { total := some (.count 3) }
      aggregations := [("brand", brands), ("price-low", .single 0 [("brand", .other .null)])] }
    let r' : SearchResult := {
      page := { total := some (.count 9) }
      aggregations := [("colour", .other (.bool true)), ("brand", brands)] }
    r.total ≠ 0 ∧ r'.total ≠ 0 ∧
      (SearchResponse.ofResult r (some { facets := [f] })).facets =
        [⟨"brand", [⟨"acme", 2⟩]⟩] ∧
      f.part r.aggregations = f.part r'.aggregations := by
  intro f brands r r'
  obtain ⟨_, hfacets, _, hparts⟩ := SearchResponse.ofResult_parts r (some { facets := [f] })
  have htotal : r.total ≠ 0 := by decide
  have hagree : Table.AgreeOn f.lookupKeys r.aggregations r'.aggregations :=
    List.forall_mem_singleton.mpr rfl
  exact ⟨htotal, by decide, (hfacets htotal).trans rfl, (hparts f).2 r' hagree⟩

end SearchBridge
