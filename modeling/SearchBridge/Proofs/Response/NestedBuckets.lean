import SearchBridge.Proofs.Facet.Selection
import SearchBridge.Proofs.Response.RoundTrip
import SearchBridge.Proofs.Result.Trees
import SearchBridge.Proofs.Text.Utf8

/-!
# Terms counted below a filter

The terms of a facet with a filter are counted below an aggregation for the filter, and both
aggregations have the facet's name for their key. So the answer is an object in which the number of
documents of the filter stands under the engine's word for it, and beside it the buckets stand under
a name that the caller chose. Under every other name the buckets are found and reported, as long as
the text of the result is read at all.

If the name is the engine's word for counts, the object of the answer has one key twice. Reading
keeps the last value of a key, so the number is lost, an object stands where it should be, and the
answer is neither a single bucket nor a list of buckets. Nothing is reported for the facet.

## Main definitions

* `Json.HasTree` : the tree of a text.
* `Json.filteredAnswer` : the answer for the documents of a filter.
* `SearchResult.TellsUnder` : a text tells a value under a key of its counts.

## Main results

* `SearchResult.TellsUnder.exists_ofBytes` : what a text tells is read from it.
* `countsUnder_of_filteredAnswer` : the counts that are read from the answer for a filter.
* `SearchResponse.filtered_terms_read_back` : when the terms of a facet with a filter are reported.
-/

namespace SearchBridge

/-! ### Texts -/

namespace Json

/-- A byte sequence is the text of one value, which has the tree. -/
def HasTree (bytes : List UInt8) (tree : Raw) : Prop := decodeBytes .ok bytes = .ok tree

/-- The text of a value is decoded as its tree is. -/
theorem HasTree.decodeBytes_eq {bytes : List UInt8} {tree : Raw} (h : HasTree bytes tree)
    {α : Type} {decode : Raw → Except Error α} {x : α} (hx : decode tree = .ok x) :
    decodeBytes decode bytes = .ok x := by
  rw [HasTree, decodeBytes, decodeUnits] at h
  rw [decodeBytes, decodeUnits]
  generalize readStart (Utf8.decode bytes) = start at h ⊢
  obtain ⟨found, rest⟩ := start
  cases rest with
  | none => cases h
  | some rest =>
    dsimp only [Except.mapError, bind, Except.bind] at h ⊢
    by_cases hblank : (skipBlanks rest).isEmpty
    · rw [if_pos hblank] at h
      cases h
      rw [hx]
      exact if_pos hblank
    · rw [if_neg hblank] at h
      cases h

/-- The bytes of a text have the tree that is found in its characters. -/
theorem hasTree_toUTF8 {text : String} {tree : Raw} (h : decodeText .ok text = .ok tree) :
    HasTree text.toUTF8.data.toList tree := by
  rw [HasTree, decodeBytes, Utf8.decode_toUTF8]
  exact h

/-- The answer for the documents of a filter: how many there are, and, under a key, what was counted
among them. -/
def filteredAnswer (docCount : UInt64) (key : String) (v : Json) : Json :=
  .object [("doc_count", .nat docCount.toNat), (key, v)]

/-- The members of an answer have two keys, unless it is that of the number of documents twice. -/
theorem nodup_keys_filteredAnswer {key : String} (h : key ≠ "doc_count") (docCount : UInt64)
    (v : Json) : (Table.keys [("doc_count", nat docCount.toNat), (key, v)]).Nodup := by
  simpa using Ne.symm h

/-- Under two keys both members of an answer are kept. -/
theorem merged_filteredAnswer_of_ne {key : String} (h : key ≠ "doc_count") (docCount : UInt64)
    (v : Json) : (filteredAnswer docCount key v).merged = filteredAnswer docCount key v.merged := by
  rw [filteredAnswer, merged, filteredAnswer]
  exact congrArg object (Table.ofEntries_of_nodup (nodup_keys_filteredAnswer h docCount v.merged))

/-- The number of documents is replaced by what stands under its key. -/
theorem merged_filteredAnswer_docCount (docCount : UInt64) (v : Json) :
    (filteredAnswer docCount "doc_count" v).merged = .object [("doc_count", v.merged)] :=
  rfl

end Json

/-! ### Classification of answers -/

namespace Aggregate

open Json

variable {key : String} {v : Json} {a : Aggregate}

/-- The answer for a filter is a single bucket with what was counted below. -/
theorem ofJson_filteredAnswer_of_ne (h : key ≠ "doc_count") (docCount : UInt64)
    (hv : v.merged.Shows a) :
    ofJson (filteredAnswer docCount key v).merged = .single docCount [(key, a)] := by
  rw [merged_filteredAnswer_of_ne h]
  exact ofJson_of_shows (.single (nodup_keys_filteredAnswer h docCount v.merged)
    List.mem_cons_self (.pass Bool.false_ne_true (.cons hv .nil)))

/-- The answer for a filter carries no counts if the key is that of the number of documents. -/
theorem ofJson_filteredAnswer_docCount (docCount : UInt64) (hv : v.merged.isObject) :
    ofJson (filteredAnswer docCount "doc_count" v).merged =
      .other (.object [("doc_count", v.merged)]) := by
  rw [merged_filteredAnswer_docCount]
  cases hmerged : v.merged with
  | object entries => rfl
  | _ => rw [hmerged] at hv; cases hv

end Aggregate

/-- The counts of the answer for a filter are those of the buckets below it that hold documents,
unless they stand under the key of the number of documents. -/
theorem countsUnder_of_filteredAnswer {aggregates : Table Aggregate} {key : String}
    {docCount : UInt64} {listed : Json} {buckets : List Bucket}
    (hget : aggregates.get? key =
      some (Aggregate.ofJson (Json.filteredAnswer docCount key listed).merged))
    (hlisted : listed.merged.Shows (.buckets buckets)) (valueId : String) :
    countsUnder aggregates key valueId =
      if key = "doc_count" then [] else bucketCounts buckets := by
  rw [countsUnder, hget]
  split_ifs with hkey
  · subst hkey
    rw [Aggregate.ofJson_filteredAnswer_docCount docCount hlisted.isObject]
  · rw [Aggregate.ofJson_filteredAnswer_of_ne hkey docCount hlisted]
    dsimp only
    rw [Table.get?_cons_self]

/-! ### Results -/

namespace SearchResult

/-- The text of a result that finds documents and tells a value under a key of its counts. Whatever
else it tells can be read, and the key does not come again. -/
inductive TellsUnder (bytes : List UInt8) (key : String) (v : Json) : Prop
  | mk {before after : List (Option String × Json.Raw)} {above below : List (String × Json)}
      {base : SearchResult}
      (text : Json.HasTree bytes (.object (before ++
        (some "aggregations", (Json.object (above ++ (key, v) :: below)).raw) :: after)))
      (notBefore : some "aggregations" ∉ before.map Prod.fst)
      (notAfter : some "aggregations" ∉ after.map Prod.fst)
      (others : read (.object (before ++ after)) = .ok base) (found : base.total ≠ 0)
      (last : key ∉ Table.keys below)

/-- The value that is told under a key is classified under it. -/
theorem get?_aggregatesOf {above below : List (String × Json)} {key : String} (v : Json)
    (h : key ∉ Table.keys below) : (aggregatesOf (above ++ (key, v) :: below)).get? key =
      some (Aggregate.ofJson v.merged) := by
  have hlast : key ∉ Table.keys (Table.mapValues (fun w => Aggregate.ofJson w.merged) below) := by
    rw [Table.keys_mapValues]
    exact h
  rw [aggregatesOf, Table.mapValues_append, Table.mapValues_cons]
  exact Table.get?_ofEntries_of_last hlast

/-- A result is read from a text that tells a value under a key, and with it the value. -/
theorem TellsUnder.exists_ofBytes {bytes : List UInt8} {key : String} {v : Json}
    (h : TellsUnder bytes key v) : ∃ r, ofBytes bytes = .ok r ∧ r.total ≠ 0 ∧
      r.aggregations.get? key = some (Aggregate.ofJson v.merged) := by
  obtain @⟨_, _, above, below, base, htext, hbefore, hafter, hothers, hfound, hlast⟩ := h
  have hread := read_of_aggregations hbefore hafter (above ++ (key, v) :: below)
  rw [hothers] at hread
  exact ⟨{ base with aggregations := _ }, htext.decodeBytes_eq hread, hfound,
    get?_aggregatesOf v hlast⟩

end SearchResult

/-! ### Responses -/

/-- The part of a facet on terms that are counted below a filter: the buckets that hold documents,
unless they stand under the key of the number of documents. -/
theorem Facet.part_of_filteredAnswer {f : Facet} {size : Option Int32}
    {values : Option (List String)} (hcounted : f.counted = .terms size values)
    {aggregates : Table Aggregate} {docCount : UInt64} {listed : Json} {buckets : List Bucket}
    (hget : aggregates.get? f.effectiveId =
      some (Aggregate.ofJson (Json.filteredAnswer docCount f.effectiveId listed).merged))
    (hlisted : listed.merged.Shows (.buckets buckets)) (hpos : ∃ b ∈ buckets, 0 < b.docCount) :
    f.part aggregates =
      if f.effectiveId = "doc_count" then [] else [⟨f.effectiveId, bucketCounts buckets⟩] := by
  have hcounts : f.counts aggregates =
      if f.effectiveId = "doc_count" then [] else bucketCounts buckets := by
    rw [counts_of_terms hcounted, countsUnder_of_filteredAnswer hget hlisted]
  split_ifs at hcounts ⊢ with hkey
  · exact part_of_counts_eq_nil hcounts
  · obtain ⟨b, hb, hcount⟩ := hpos
    have hmem : b.facetCount ∈ bucketCounts buckets :=
      List.mem_map_of_mem (List.mem_filter.mpr ⟨hb, decide_eq_true hcount⟩)
    rw [part_of_counts_ne_nil (hcounts ▸ List.ne_nil_of_mem hmem), hcounts]

/-- **Terms counted below a filter are read back** under every name but one. Take a facet of a
request, on the terms of a field that has a name and with a filter from which a query is lowered,
and the text of a result that finds documents and answers the facet: with a number of documents and,
under the facet's own name, buckets of which at least one holds documents. For the facet one
aggregation is sent, that for the query, with the one for the terms below it under the same name.
The result is read from the text, and the facets of the response are what the requested facets
contribute. The facet contributes exactly the buckets that hold documents, in their order and under
its name, unless this is the engine's word for the number of documents; then it contributes
nothing. -/
theorem SearchResponse.filtered_terms_read_back {catalog : Catalog} {request : SearchRequest}
    {f : Facet} (hf : f ∈ request.facets) {size : Option Int32} {values : Option (List String)}
    (hcounted : f.counted = .terms size values) (hname : f.fieldName ≠ "") {query : Query}
    (hscope : f.scope? catalog = some query) {bytes : List UInt8} {docCount : UInt64}
    {listed : Json} {buckets : List Bucket}
    (hanswer : SearchResult.TellsUnder bytes f.effectiveId
      (.filteredAnswer docCount f.effectiveId listed))
    (hlisted : listed.merged.Shows (.buckets buckets)) (hpos : ∃ b ∈ buckets, 0 < b.docCount) :
    (∃ field count allowed, f.entries catalog =
      [(f.effectiveId, .filter query [(f.effectiveId, .terms field count allowed)])]) ∧
    ∃ r, SearchResult.ofBytes bytes = .ok r ∧
      (ofResult r (some request)).facets =
        request.facets.flatMap (Facet.part r.aggregations) ∧
      (f.effectiveId ≠ "doc_count" →
        let counts := (buckets.filter fun b => 0 < b.docCount).map Bucket.facetCount
        f.part r.aggregations = [⟨f.effectiveId, counts⟩] ∧
          ⟨f.effectiveId, counts⟩ ∈ (ofResult r (some request)).facets) ∧
      (f.effectiveId = "doc_count" → f.part r.aggregations = []) := by
  have hsent := f.entries_of_terms catalog hcounted
    (f.termsAggregation?_targetField catalog hname size values)
  rw [hscope] at hsent
  obtain ⟨r, hread, hfound, hget⟩ := hanswer.exists_ofBytes
  have hfacets := facets_ofResult hfound (some request)
  have hpart := f.part_of_filteredAnswer hcounted hget hlisted hpos
  refine ⟨⟨_, _, _, hsent⟩, r, hread, hfacets, fun hkey => ?_, fun hkey => ?_⟩
  · rw [if_neg hkey] at hpart
    refine ⟨hpart, ?_⟩
    rw [hfacets]
    exact List.mem_flatMap.mpr ⟨f, hf, hpart ▸ List.mem_singleton_self _⟩
  · rw [if_pos hkey] at hpart
    exact hpart

/-- A text with three documents and one aggregation tells what is under its key. -/
private theorem tellsUnder_of_decodeText {text key : String} {v : Json}
    (h : (Json.decodeText .ok text).toOption = some (Json.object [
      ("hits", .object [("total", .nat 3)]), ("aggregations", .object [(key, v)])]).raw) :
    SearchResult.TellsUnder text.toUTF8.data.toList key v := by
  have hread : SearchResult.read (.object [(some "hits", (Json.object [("total", .nat 3)]).raw)]) =
      .ok { page := { total := some (.count 3) } } := rfl
  cases htext : Json.decodeText .ok text with
  | error e =>
    rw [htext] at h
    cases h
  | ok tree =>
    rw [htext] at h
    obtain rfl := Option.some.inj h
    exact @SearchResult.TellsUnder.mk _ key v [(some "hits", _)] [] [] [] _
      (Json.hasTree_toUTF8 htext) (by decide) List.not_mem_nil hread (by decide) List.not_mem_nil

/-- The terms are found under a name that tells lists of buckets from other counts. -/
theorem SearchResponse.filtered_terms_read_back_under_buckets :
    let f : Facet := {
      id := some "buckets", fieldName := "Brand", filter := some (.ids ["1"]),
      counted := .terms none none }
    let listed : Json := .object [("buckets", .array [
      .object [("key", .string "acme"), ("doc_count", .nat 3)]])]
    let text := "\x7b\"hits\":\x7b\"total\":3\x7d,\"aggregations\":\x7b\"buckets\":" ++
      "\x7b\"doc_count\":3,\"buckets\":\x7b\"buckets\":[\x7b\"key\":\"acme\",\"doc_count\":3\x7d]\x7d\x7d\x7d\x7d"
    SearchResult.TellsUnder text.toUTF8.data.toList "buckets" (.filteredAnswer 3 "buckets" listed) ∧
      ∃ r, SearchResult.ofBytes text.toUTF8.data.toList = .ok r ∧
        f.part r.aggregations = [⟨"buckets", [⟨"acme", 3⟩]⟩] := by
  intro f listed text
  have hanswer : SearchResult.TellsUnder text.toUTF8.data.toList "buckets"
      (.filteredAnswer 3 "buckets" listed) :=
    tellsUnder_of_decodeText (by decide +kernel)
  have hlisted : listed.merged.Shows (.buckets [⟨.string "acme", none, 3⟩]) :=
    Aggregate.shows_toJson (.buckets [⟨.string "acme", none, 3⟩]) trivial
  have hscope : f.scope? .empty = some (.clause (.ids ["1"])) := rfl
  have hf : f ∈ SearchRequest.facets { facets := [f] } := List.mem_cons_self
  obtain ⟨-, r, hread, -, hpart, -⟩ := filtered_terms_read_back hf rfl (by decide) hscope hanswer
    hlisted ⟨_, List.mem_cons_self, by decide⟩
  exact ⟨hanswer, r, hread, (hpart (by decide)).1⟩

/-- Under the engine's word for the number of documents the same terms are lost. -/
theorem SearchResponse.filtered_terms_lost_under_docCount :
    let f : Facet := {
      id := some "doc_count", fieldName := "Brand", filter := some (.ids ["1"]),
      counted := .terms none none }
    let listed : Json := .object [("buckets", .array [
      .object [("key", .string "acme"), ("doc_count", .nat 3)]])]
    let text := "\x7b\"hits\":\x7b\"total\":3\x7d,\"aggregations\":\x7b\"doc_count\":" ++
      "\x7b\"doc_count\":3,\"doc_count\":\x7b\"buckets\":[\x7b\"key\":\"acme\",\"doc_count\":3\x7d]\x7d\x7d\x7d\x7d"
    (f.scope? .empty).isSome ∧
      SearchResult.TellsUnder text.toUTF8.data.toList f.effectiveId
        (.filteredAnswer 3 f.effectiveId listed) ∧
      listed.merged.Shows (.buckets [⟨.string "acme", none, 3⟩]) ∧
      ∃ r, SearchResult.ofBytes text.toUTF8.data.toList = .ok r ∧
        (ofResult r (some { facets := [f] })).facets = [] := by
  intro f listed text
  have hanswer : SearchResult.TellsUnder text.toUTF8.data.toList f.effectiveId
      (.filteredAnswer 3 f.effectiveId listed) :=
    tellsUnder_of_decodeText (by decide +kernel)
  have hlisted : listed.merged.Shows (.buckets [⟨.string "acme", none, 3⟩]) :=
    Aggregate.shows_toJson (.buckets [⟨.string "acme", none, 3⟩]) trivial
  obtain ⟨r, hread, hfound, hget⟩ := hanswer.exists_ofBytes
  have hpart : f.part r.aggregations = [] :=
    f.part_of_filteredAnswer rfl hget hlisted ⟨_, List.mem_cons_self, by decide⟩
  refine ⟨rfl, hanswer, hlisted, r, hread, ?_⟩
  rw [facets_ofResult hfound, Option.map_some, Option.getD_some, List.flatMap_singleton]
  exact hpart

end SearchBridge
