import SearchBridge.Proofs.Json.MemberOrder
import SearchBridge.Proofs.Response.Documents
import SearchBridge.Proofs.Response.Parts
import SearchBridge.Proofs.Result.Aggregate
import SearchBridge.Proofs.Result.Reading

/-!
# Malformed counts

The engine may send any object as its counts, and it costs the caller nothing else: whether a result
can be read, its total and its hits, and the documents of every response are the same with other
counts or without any. Inside a list of buckets the same is true of each bucket: what describes no
bucket is passed over, and the buckets around it are read as they are without it.

## Main definitions

* `SearchResult.AgreeButCounts` : results in JSON that agree on everything but their counts.
* `Json.Lists` : buckets that are listed without a count of documents beside them.

## Main results

* `Aggregate.ofJson_eq_of_array_insert`, `Aggregate.ofJson_eq_of_object_insert` : what describes no
  bucket changes no other bucket.
* `SearchResult.AgreeButCounts.exists_ofJson` : the counts do not decide whether a result is read.
* `SearchResponse.malformed_counts_cost_nothing` : malformed counts do no harm elsewhere.
-/

namespace SearchBridge

open Json Json.Raw

/-! ### Lists of buckets -/

/-- A value lists buckets, in whatever form, and tells no count of documents. -/
structure Json.Lists (v listed : Json) : Prop where
  noCount : v.docCount? = none
  buckets : v.get? "buckets" = some listed

namespace Bucket

/-- Only an object describes a bucket. -/
theorem ofObject?_of_not_isObject {v : Json} (h : ¬v.isObject) (mapKey : Option String) :
    ofObject? mapKey v = none := by
  cases v with
  | object entries => exact absurd rfl h
  | _ => rfl

/-- An item of an array describes a bucket only if it has a key. -/
theorem ofObject?_of_get?_eq_none {v : Json} (h : v.get? "key" = none) :
    ofObject? none v = none := by
  cases v with
  | object entries =>
    have hkey : Table.get? entries "key" = none := h
    rw [ofObject?, hkey]
    rfl
  | _ => rfl

/-- What describes no bucket is left out of an array. -/
theorem listOf_array_insert {v : Json} (h : ¬v.isObject ∨ v.get? "key" = none)
    (items items' : List Json) :
    listOf (.array (items ++ v :: items')) = listOf (.array (items ++ items')) := by
  have hv : ofObject? none v = none :=
    h.elim (fun h => ofObject?_of_not_isObject h none) ofObject?_of_get?_eq_none
  rw [listOf, listOf, List.filterMap_append, List.filterMap_append, List.filterMap_cons_none hv]

/-- What describes no bucket is left out of an object. -/
theorem listOf_object_insert {v : Json} (h : ¬v.isObject) (key : String)
    (entries entries' : List (String × Json)) :
    listOf (.object (entries ++ (key, v) :: entries')) =
      listOf (.object (entries ++ entries')) := by
  have hcons : ((key, v) :: entries').filterMap (fun e => ofObject? (some e.1) e.2) =
      entries'.filterMap fun e => ofObject? (some e.1) e.2 :=
    List.filterMap_cons_none (ofObject?_of_not_isObject h (some key))
  rw [listOf, listOf, List.filterMap_append, List.filterMap_append, hcons]

end Bucket

namespace Aggregate

variable {a a' v : Json}

/-- An item that describes no bucket changes no other bucket of an array. -/
theorem ofJson_eq_of_array_insert {items items' : List Json}
    (ha : a.Lists (.array (items ++ v :: items'))) (ha' : a'.Lists (.array (items ++ items')))
    (hv : ¬v.isObject ∨ v.get? "key" = none) : ofJson a = ofJson a' := by
  rw [ofJson_of_buckets ha.noCount ha.buckets, ofJson_of_buckets ha'.noCount ha'.buckets,
    Bucket.listOf_array_insert hv]

/-- An entry that describes no bucket changes no other bucket of an object. -/
theorem ofJson_eq_of_object_insert {key : String} {entries entries' : List (String × Json)}
    (ha : a.Lists (.object (entries ++ (key, v) :: entries')))
    (ha' : a'.Lists (.object (entries ++ entries'))) (hv : ¬v.isObject) :
    ofJson a = ofJson a' := by
  rw [ofJson_of_buckets ha.noCount ha.buckets, ofJson_of_buckets ha'.noCount ha'.buckets,
    Bucket.listOf_object_insert hv]

end Aggregate

/-! ### Results -/

namespace SearchResult

/-- Two objects, neither of which repeats a key, hold the same under every key but that of the
counts, where each holds an object or nothing. -/
structure AgreeButCounts (entries entries' : List (String × Json)) : Prop where
  nodup : (Table.keys entries).Nodup
  nodup' : (Table.keys entries').Nodup
  agree : ∀ key, key ≠ "aggregations" → Table.get? entries key = Table.get? entries' key
  counts : ∀ v ∈ Table.get? entries "aggregations", v.isObject
  counts' : ∀ v ∈ Table.get? entries' "aggregations", v.isObject

variable {entries entries' : List (String × Json)}

theorem AgreeButCounts.symm (h : AgreeButCounts entries entries') :
    AgreeButCounts entries' entries where
  nodup := h.nodup'
  nodup' := h.nodup
  agree key hkey := (h.agree key hkey).symm
  counts := h.counts'
  counts' := h.counts

/-- The fields of a result are set independently of each other. -/
theorem commutes_fields : fields.Pairwise RecordField.Commutes := by
  simp only [fields, List.pairwise_cons, List.forall_mem_cons, List.not_mem_nil,
    false_imp_iff, implies_true, List.Pairwise.nil, and_true]
  exact ⟨⟨RecordField.optional_commutes fun _ _ _ => rfl,
    RecordField.optional_commutes fun _ _ _ => rfl,
    RecordField.optional_commutes fun _ _ _ => rfl⟩,
    ⟨RecordField.optional_commutes fun _ _ _ => rfl,
    RecordField.optional_commutes fun _ _ _ => rfl⟩,
    RecordField.optional_commutes fun _ _ _ => rfl⟩

/-- A result is read from the entries of an object in any order. -/
theorem ofJson_perm (hperm : entries.Perm entries') {r : SearchResult}
    (h : ofJson (.object entries) = .ok r) : ofJson (.object entries') = .ok r := by
  have hmembers : (rawEntries entries).Perm (rawEntries entries') := by
    rw [rawEntries_eq_map, rawEntries_eq_map]
    exact hperm.map _
  exact readFields_perm commutes_fields hmembers h

/-- An object whose counts are an object or missing is read as its other entries, to which some
counts are added. -/
theorem exists_ofJson_eq_map (hkeys : (Table.keys entries).Nodup)
    (hcounts : ∀ v ∈ Table.get? entries "aggregations", v.isObject) :
    ∃ aggregates : Table Aggregate, ofJson (.object entries) =
      (ofJson (.object (Table.without entries "aggregations"))).map
        fun r => { r with aggregations := aggregates } := by
  have hobject : ∃ aggs, (Table.get? entries "aggregations").getD (.object []) = .object aggs := by
    cases hget : Table.get? entries "aggregations" with
    | none => exact ⟨[], rfl⟩
    | some v =>
      have hv := hcounts v hget
      cases v with
      | object aggs => exact ⟨aggs, rfl⟩
      | _ => cases hv
  obtain ⟨aggs, haggs⟩ := hobject
  exact ⟨aggregatesOf aggs, ofJson_eq_map_without hkeys haggs⟩

/-- If a result is read, then so is every result that agrees with it on everything but the counts,
and nothing but the counts is different. -/
theorem AgreeButCounts.exists_ofJson (h : AgreeButCounts entries entries') {r : SearchResult}
    (hr : ofJson (.object entries) = .ok r) : ∃ aggregates : Table Aggregate,
      ofJson (.object entries') = .ok { r with aggregations := aggregates } := by
  obtain ⟨aggregates, heq⟩ := exists_ofJson_eq_map h.nodup h.counts
  obtain ⟨aggregates', heq'⟩ := exists_ofJson_eq_map h.nodup' h.counts'
  rw [heq] at hr
  obtain ⟨base, hbase, rfl⟩ := exists_of_map_eq_ok hr
  have hperm := Table.perm_without h.nodup h.nodup' h.agree
  rw [heq', ofJson_perm hperm hbase]
  exact ⟨aggregates', rfl⟩

end SearchResult

/-! ### Responses -/

/-- The total and the documents of a response do not depend on the counts of the result. -/
theorem SearchResponse.ofResult_of_other_counts (r : SearchResult) (aggregates : Table Aggregate)
    (request : Option SearchRequest) :
    (ofResult { r with aggregations := aggregates } request).totalCount =
        (ofResult r request).totalCount ∧
      (ofResult { r with aggregations := aggregates } request).documents =
        (ofResult r request).documents := by
  by_cases htotal : r.total = 0
  · rw [ofResult_of_total_eq_zero htotal,
      ofResult_of_total_eq_zero (r := { r with aggregations := aggregates }) htotal]
    exact ⟨rfl, rfl⟩
  · obtain ⟨hcount, hdocuments⟩ := page_ofResult htotal request
    obtain ⟨hcount', hdocuments'⟩ :=
      page_ofResult (r := { r with aggregations := aggregates }) htotal request
    rw [hcount, hcount', hdocuments, hdocuments']
    exact ⟨rfl, rfl⟩

/-- **Malformed counts cost nothing else.** Of two results in JSON that agree on everything but
their counts, which are any objects or missing, both are read or neither. If they are read, they
tell the same time, the same total and the same hits, and for every request the responses to them
have the same total and the same documents. In an array of buckets, what is no object or has no key
changes none of the other buckets nor their order, and neither does what is no object among buckets
under their keys. -/
theorem SearchResponse.malformed_counts_cost_nothing :
    (∀ entries entries', SearchResult.AgreeButCounts entries entries' →
      ((∃ r, SearchResult.ofJson (.object entries) = .ok r) ↔
        ∃ r, SearchResult.ofJson (.object entries') = .ok r) ∧
      ∀ r r', SearchResult.ofJson (.object entries) = .ok r →
        SearchResult.ofJson (.object entries') = .ok r' →
          r.took = r'.took ∧ r.timedOut = r'.timedOut ∧ r.page = r'.page ∧
          ∀ request, (ofResult r request).totalCount = (ofResult r' request).totalCount ∧
            (ofResult r request).documents = (ofResult r' request).documents) ∧
    (∀ (a a' v : Json) (items items' : List Json),
      a.Lists (.array (items ++ v :: items')) → a'.Lists (.array (items ++ items')) →
        (¬v.isObject ∨ v.get? "key" = none) → Aggregate.ofJson a = Aggregate.ofJson a') ∧
    ∀ (a a' v : Json) (key : String) (entries entries' : List (String × Json)),
      a.Lists (.object (entries ++ (key, v) :: entries')) →
        a'.Lists (.object (entries ++ entries')) →
          ¬v.isObject → Aggregate.ofJson a = Aggregate.ofJson a' := by
  refine ⟨fun entries entries' h => ⟨⟨?_, ?_⟩, fun r r' hr hr' => ?_⟩,
    fun a a' v items items' => Aggregate.ofJson_eq_of_array_insert,
    fun a a' v key entries entries' => Aggregate.ofJson_eq_of_object_insert⟩
  · rintro ⟨r, hr⟩
    obtain ⟨aggregates, hr'⟩ := h.exists_ofJson hr
    exact ⟨_, hr'⟩
  · rintro ⟨r, hr⟩
    obtain ⟨aggregates, hr'⟩ := h.symm.exists_ofJson hr
    exact ⟨_, hr'⟩
  · obtain ⟨aggregates, hread⟩ := h.exists_ofJson hr
    obtain rfl : { r with aggregations := aggregates } = r' := Except.ok.inj (hread.symm.trans hr')
    refine ⟨rfl, rfl, rfl, fun request => ?_⟩
    obtain ⟨hcount, hdocuments⟩ := ofResult_of_other_counts r aggregates request
    exact ⟨hcount.symm, hdocuments.symm⟩

/-- Counts of the wrong shape against none at all, the other entries being in another order; an item
without a key in an array of buckets, and a number among buckets under their keys. -/
theorem SearchResponse.malformed_counts_cost_nothing_of_junk :
    let hits : Json :=
      .object [("total", .nat 2), ("hits", .array [.object [("_id", .string "1")]])]
    let entries : List (String × Json) := [("took", .nat 3),
      ("aggregations", .object [("brand", .object [("doc_count", .string "x")])]), ("hits", hits)]
    let entries' : List (String × Json) := [("hits", hits), ("took", .nat 3)]
    let bucket (key : String) : Json := .object [("key", .string key), ("doc_count", .nat 1)]
    let count : Json := .object [("doc_count", .nat 4)]
    let list (items : List Json) : Json := .object [("buckets", .array items)]
    let table (named : List (String × Json)) : Json := .object [("buckets", .object named)]
    SearchResult.AgreeButCounts entries entries' ∧
      (∃ r r', SearchResult.ofJson (.object entries) = .ok r ∧
        SearchResult.ofJson (.object entries') = .ok r' ∧ r.page = r'.page ∧
        ∀ request, (ofResult r request).documents = (ofResult r' request).documents) ∧
      Aggregate.ofJson (list [bucket "acme", count, bucket "zeta"]) =
        Aggregate.ofJson (list [bucket "acme", bucket "zeta"]) ∧
      Aggregate.ofJson (table [("acme", count), ("junk", .nat 7), ("zeta", count)]) =
        Aggregate.ofJson (table [("acme", count), ("zeta", count)]) := by
  intro hits entries entries' bucket count list table
  obtain ⟨hresults, harrays, hobjects⟩ := malformed_counts_cost_nothing
  have hagree : SearchResult.AgreeButCounts entries entries' := by
    refine ⟨by decide, by decide, fun key hkey => ?_, ?_, ?_⟩
    · simp only [entries, entries', Table.get?_cons, if_neg hkey, Table.get?_nil]
      split_ifs with htook hhits
      · exact absurd (htook.symm.trans hhits) (by decide)
      all_goals rfl
    · rintro v ⟨⟩
      rfl
    · rintro v ⟨⟩
  obtain ⟨hread, hequal⟩ := hresults entries entries' hagree
  have hr : ∃ r, SearchResult.ofJson (.object entries) = .ok r := ⟨_, rfl⟩
  obtain ⟨r, hr⟩ := hr
  obtain ⟨r', hr'⟩ := hread.mp ⟨r, hr⟩
  obtain ⟨-, -, hpage, hresponse⟩ := hequal r r' hr hr'
  refine ⟨hagree, ⟨r, r', hr, hr', hpage, fun request => (hresponse request).2⟩, ?_, ?_⟩
  · exact harrays _ _ count [bucket "acme"] [bucket "zeta"] ⟨rfl, rfl⟩ ⟨rfl, rfl⟩ (.inr rfl)
  · exact hobjects _ _ (.nat 7) "junk" [("acme", count)] [("zeta", count)] ⟨rfl, rfl⟩ ⟨rfl, rfl⟩
      (by decide)

end SearchBridge
