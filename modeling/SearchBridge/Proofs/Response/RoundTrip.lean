import SearchBridge.Proofs.Response.Parts
import SearchBridge.Proofs.Result.Aggregate
import SearchBridge.Proofs.Result.Reading

/-!
# From facets to counts and back

A request asks for aggregations, the engine answers them, and the response reads the answers back
without knowing what was asked: it tells lists of buckets from single buckets by their shape. Two
descriptions meet here. One tells which shape an answer has, given the aggregation that was sent.
The other tells which counts a facet should report, given what was sent for it, in terms of the JSON
of the answers alone. If the answers have their shapes and no two counts are looked up under one
key, then the response to the answers reports exactly the counts that it should.

## Main definitions

* `Aggregation.Answered`, `Answers` : the shapes of the engine's answers.
* `Facet.answeredCounts`, `Facet.answer?` : the counts that a facet should report.

## Main results

* `Facet.counts_eq_answeredCounts` : the counts of one facet are those that it should report.
* `SearchResponse.facets_of_answers` : so are those of all facets of a request.
-/

namespace SearchBridge

/-! ### The engine's answers -/

/-- The shape of the answer under a key: a list of buckets for a terms aggregation, a count of
documents for a filter aggregation, in which a list of buckets stands under the same key exactly if
the filter aggregation has its own aggregations. -/
def Aggregation.Answered (key : String) : Aggregation → Json → Prop
  | .terms _ _ _, v => v.IsBucketList
  | .filter _ [], v => v.docCount?.isSome ∧ v.get? key = none
  | .filter _ (_ :: _), v => v.docCount?.isSome ∧ ∃ w, v.get? key = some w ∧ w.IsBucketList

/-- The engine answers each of the aggregations in its shape, and nothing else. -/
structure Answers (asked : Table Aggregation) (answers : Table Json) : Prop where
  mem_keys_iff : ∀ key, key ∈ answers.keys ↔ key ∈ asked.keys
  answered : ∀ key a v, (key, a) ∈ asked → answers.get? key = some v → a.Answered key v

namespace Json

/-- The count that a value tells, reported under a name unless it is zero. -/
def ownCount (id : String) (v : Json) : List FacetCount :=
  match v.docCount? with
  | some n => if 0 < n then [⟨id, n⟩] else []
  | none => []

/-- The name of a bucket: the text that the engine gives for its key, or else that of the key. -/
def bucketLabel (b : Json) : String :=
  ((b.get? "key_as_string").bind text?).getD (bucketName ((b.get? "key").getD .null))

/-- The counts of a list of buckets, each under the bucket's name. -/
def termCounts (v : Json) : List FacetCount :=
  match v.get? "buckets" with
  | some (.array items) => items.flatMap fun b => b.ownCount b.bucketLabel
  | _ => []

end Json

/-- The answer under a key, `null` if there is none. -/
def answerUnder (answers : Table Json) (key : String) : Json := (answers.get? key).getD .null

namespace Facet

/-- The counts that a facet should report, given the answers. A facet on terms reports the buckets
of its field, which are found below its filter if it has one, and the count of its filter if it has
no field. A facet on intervals reports one count an interval. -/
def answeredCounts (catalog : Catalog) (answers : Table Json) (f : Facet) : List FacetCount :=
  match f.counted with
  | .terms _ _ =>
    let answer := answerUnder answers f.effectiveId
    match decide (f.targetField catalog = ""), f.scope? catalog with
    | true, none => []
    | true, some _ => answer.ownCount f.effectiveId
    | false, none => answer.termCounts
    | false, some _ => ((answer.get? f.effectiveId).getD .null).termCounts
  | .intervals values =>
    values.flatMap fun v => (answerUnder answers (intervalKey f.effectiveId v.id)).ownCount v.id

/-- What a facet should contribute to the response: its counts, or nothing if there are none. -/
def answer? (catalog : Catalog) (answers : Table Json) (f : Facet) : Option FacetResult :=
  FacetResult.ofCounts? f.effectiveId (f.answeredCounts catalog answers)

end Facet

/-! ### Reading one answer -/

/-- A bucket in the engine's shape is read with its count and its name. -/
theorem Bucket.exists_of_isBucket {v : Json} (h : v.IsBucket) :
    ∃ b, Bucket.ofObject? none v = some b ∧
      (if 0 < b.docCount then [b.facetCount] else []) = v.ownCount v.bucketLabel := by
  obtain ⟨key, hkey⟩ := Option.isSome_iff_exists.mp h.key
  obtain ⟨n, hcount⟩ := Option.isSome_iff_exists.mp h.count
  obtain ⟨entries, rfl, hentry⟩ := Json.exists_entries_of_get? hkey
  have hword : (Table.get? entries "doc_count").bind Json.word? = some n := hcount
  refine ⟨_, by rw [ofObject?, hentry]; rfl, ?_⟩
  rw [Json.ownCount, Json.bucketLabel, hcount, hkey, hword]
  rfl

/-- The counts of buckets in the engine's shape. -/
theorem bucketCounts_listOf (items : List Json) (h : ∀ b ∈ items, b.IsBucket) :
    bucketCounts (Bucket.listOf (.array items)) =
      items.flatMap fun b => b.ownCount b.bucketLabel := by
  induction items with
  | nil => rfl
  | cons v items ih =>
    obtain ⟨hv, hitems⟩ := List.forall_mem_cons.mp h
    obtain ⟨b, hb, hcounts⟩ := Bucket.exists_of_isBucket hv
    rw [Bucket.listOf, List.filterMap_cons_some hb, bucketCounts_cons, hcounts, List.flatMap_cons]
    exact congrArg (_ ++ ·) (ih hitems)

/-- The counts of a list of buckets in the engine's shape. -/
theorem exists_buckets_of_isBucketList {v : Json} (h : v.IsBucketList) :
    ∃ bs, Aggregate.ofJson v = .buckets bs ∧ bucketCounts bs = v.termCounts := by
  obtain ⟨items, hitems, hbuckets⟩ := h.buckets
  refine ⟨_, Aggregate.ofJson_of_buckets h.docCount?_eq_none hitems, ?_⟩
  rw [Json.termCounts, hitems]
  exact bucketCounts_listOf items hbuckets

section CountsUnder

variable {answers : Table Json} {key : String} {v : Json}

/-- Nothing is counted under a key that has no answer. -/
theorem countsUnder_of_get?_eq_none (h : answers.get? key = none) (id : String) :
    countsUnder (answers.mapValues Aggregate.ofJson) key id = [] := by
  rw [countsUnder, Table.get?_mapValues, h]
  rfl

/-- Under a key that is answered by a list of buckets, the buckets are counted. -/
theorem countsUnder_of_isBucketList (hget : answers.get? key = some v) (h : v.IsBucketList)
    (id : String) :
    countsUnder (answers.mapValues Aggregate.ofJson) key id = v.termCounts := by
  obtain ⟨bs, hbs, hcounts⟩ := exists_buckets_of_isBucketList h
  rw [countsUnder, Table.get?_mapValues, hget, Option.map_some, hbs]
  exact hcounts

/-- Under a key that is answered by a lone count, this count is reported. -/
theorem countsUnder_of_docCount? (hget : answers.get? key = some v) (hv : v.keysDistinct)
    (hcount : v.docCount?.isSome) (hnone : v.get? key = none) (id : String) :
    countsUnder (answers.mapValues Aggregate.ofJson) key id = v.ownCount id := by
  obtain ⟨n, hn⟩ := Option.isSome_iff_exists.mp hcount
  obtain ⟨w, hw, _⟩ := Option.bind_eq_some_iff.mp hn
  obtain ⟨entries, rfl, _⟩ := Json.exists_entries_of_get? hw
  have hnested := Aggregate.get?_nested_eq_none (Json.keysDistinct_object.mp hv).1 hnone
  rw [countsUnder, Table.get?_mapValues, hget, Option.map_some, Aggregate.ofJson_of_docCount? hn]
  dsimp only
  rw [hnested, Json.ownCount, hn]

/-- Under a key that is answered by a count with a list of buckets under the same key, the buckets
are counted. -/
theorem countsUnder_of_nested (hget : answers.get? key = some v) (hv : v.keysDistinct)
    (hcount : v.docCount?.isSome) {w : Json} (hw : v.get? key = some w) (h : w.IsBucketList)
    (id : String) :
    countsUnder (answers.mapValues Aggregate.ofJson) key id = w.termCounts := by
  obtain ⟨n, hn⟩ := Option.isSome_iff_exists.mp hcount
  obtain ⟨entries, rfl, hentry⟩ := Json.exists_entries_of_get? hw
  obtain ⟨bs, hbs, hcounts⟩ := exists_buckets_of_isBucketList h
  have hnested := Aggregate.get?_nested_of_isObject (Json.keysDistinct_object.mp hv).1 hentry
    h.isObject
  rw [countsUnder, Table.get?_mapValues, hget, Option.map_some, Aggregate.ofJson_of_docCount? hn]
  dsimp only
  rw [hnested, hbs]
  exact hcounts

end CountsUnder

/-! ### Reading the answers to one facet -/

namespace Facet

/-- The part of the answers that concerns one facet: there are answers under those of its keys that
aggregations were sent under, and they have their shapes. -/
structure IsAnswered (catalog : Catalog) (answers : Table Json) (f : Facet) : Prop where
  mem_keys_iff : ∀ key ∈ f.lookupKeys, key ∈ answers.keys ↔ key ∈ f.emittedKeys catalog
  answered : ∀ key a v, (key, a) ∈ f.entries catalog → answers.get? key = some v → a.Answered key v

variable {catalog : Catalog} {answers : Table Json} {f : Facet}

theorem counts_of_terms {size : Option Int32} {values : Option (List String)}
    (h : f.counted = .terms size values) (aggregates : Table Aggregate) :
    f.counts aggregates = countsUnder aggregates f.effectiveId f.effectiveId := by
  rw [counts, lookups, h]
  exact List.append_nil _

theorem counts_of_intervals {values : List NamedInterval} (h : f.counted = .intervals values)
    (aggregates : Table Aggregate) : f.counts aggregates =
      values.flatMap fun v => countsUnder aggregates (intervalKey f.effectiveId v.id) v.id := by
  rw [counts, lookups, h]
  dsimp only
  rw [List.flatMap_map]

/-- The aggregation sent for a facet has an answer of its shape. -/
theorem IsAnswered.exists_answer (h : f.IsAnswered catalog answers) {key : String} {a : Aggregation}
    (hmem : (key, a) ∈ f.entries catalog) : ∃ v, answers.get? key = some v ∧ a.Answered key v := by
  have hsent : key ∈ f.emittedKeys catalog := by
    rw [← keys_entries]
    exact Table.mem_keys_of_mem hmem
  have hkey : key ∈ answers.keys :=
    (h.mem_keys_iff key ((f.emittedKeys_sublist catalog).subset hsent)).mpr hsent
  obtain ⟨v, hv⟩ := Table.exists_get?_of_mem_keys hkey
  exact ⟨v, hv, h.answered key a v hmem hv⟩

private theorem counts_eq_of_terms (hvalues : ∀ key v, answers.get? key = some v → v.keysDistinct)
    (h : f.IsAnswered catalog answers) {size : Option Int32} {values : Option (List String)}
    (hcounted : f.counted = .terms size values) :
    f.counts (answers.mapValues Aggregate.ofJson) =
      f.answeredCounts catalog answers := by
  rw [counts_of_terms hcounted, answeredCounts, hcounted]
  dsimp only
  -- A field and a filter may each be present or not, and each mix is sent in another form.
  by_cases htarget : f.targetField catalog = "" <;> cases hscope : f.scope? catalog
  case pos.none =>
    have hkey : f.effectiveId ∉ answers.keys := by
      rw [h.mem_keys_iff _ (by simp [lookupKeys_of_terms hcounted]), emittedKeys, hcounted]
      simp [htarget, hscope]
    rw [decide_eq_true htarget, countsUnder_of_get?_eq_none (Table.get?_eq_none_iff.mpr hkey)]
  case pos.some query =>
    have hmem : (f.effectiveId, Aggregation.filter query []) ∈ f.entries catalog := by
      simp [entries, hcounted, hscope, termsAggregation?, htarget]
    obtain ⟨v, hv, hcount, hnone⟩ := h.exists_answer hmem
    rw [decide_eq_true htarget, answerUnder, hv]
    exact countsUnder_of_docCount? hv (hvalues _ v hv) hcount hnone _
  case neg.none =>
    have hmem : (f.effectiveId, Aggregation.terms (f.targetField catalog) (some (termCount size))
        (values.filter fun vs => !vs.isEmpty)) ∈ f.entries catalog := by
      simp [entries, hcounted, hscope, termsAggregation?, htarget]
    obtain ⟨v, hv, hlist⟩ := h.exists_answer hmem
    rw [decide_eq_false htarget, answerUnder, hv]
    exact countsUnder_of_isBucketList hv hlist _
  case neg.some query =>
    have hmem : (f.effectiveId, Aggregation.filter query [(f.effectiveId,
        .terms (f.targetField catalog) (some (termCount size))
          (values.filter fun vs => !vs.isEmpty))]) ∈ f.entries catalog := by
      simp [entries, hcounted, hscope, termsAggregation?, htarget]
    obtain ⟨v, hv, hcount, w, hw, hlist⟩ := h.exists_answer hmem
    rw [decide_eq_false htarget, answerUnder, hv]
    dsimp only [Option.getD_some]
    rw [hw]
    exact countsUnder_of_nested hv (hvalues _ v hv) hcount hw hlist _

private theorem counts_eq_of_intervals
    (hvalues : ∀ key v, answers.get? key = some v → v.keysDistinct)
    (h : f.IsAnswered catalog answers) {values : List NamedInterval}
    (hcounted : f.counted = .intervals values) :
    f.counts (answers.mapValues Aggregate.ofJson) =
      f.answeredCounts catalog answers := by
  rw [counts_of_intervals hcounted, answeredCounts, hcounted]
  refine List.flatMap_congr fun i hi => ?_
  have hmem : (intervalKey f.effectiveId i.id, Aggregation.filter
      (.bool (Filter.intervalQuery (f.targetField catalog) i.interval ::
        (f.scope? catalog).toList) [] [] none) []) ∈ f.entries catalog := by
    rw [entries, hcounted]
    exact List.mem_map_of_mem hi
  obtain ⟨v, hv, hcount, hnone⟩ := h.exists_answer hmem
  rw [answerUnder, hv]
  exact countsUnder_of_docCount? hv (hvalues _ v hv) hcount hnone i.id

/-- **The counts of one facet.** If the aggregations sent for a facet are answered in their shapes
and there is no other answer under a key of the facet, the facet has the counts that it should
report. -/
theorem counts_eq_answeredCounts (hdistinct : (Json.object answers).keysDistinct)
    (h : f.IsAnswered catalog answers) :
    f.counts (answers.mapValues Aggregate.ofJson) =
      f.answeredCounts catalog answers := by
  obtain ⟨hnodup, hentries⟩ := Json.keysDistinct_object.mp hdistinct
  have hvalues (key : String) (v : Json) (hv : answers.get? key = some v) : v.keysDistinct :=
    Json.keysDistinct_of_mem hentries ((Table.get?_eq_some_iff hnodup).mp hv)
  cases hcounted : f.counted with
  | terms size values => exact counts_eq_of_terms hvalues h hcounted
  | intervals values => exact counts_eq_of_intervals hvalues h hcounted

/-- A facet contributes what it should if it has the counts that it should report. -/
theorem result?_eq_answer? (hdistinct : (Json.object answers).keysDistinct)
    (h : f.IsAnswered catalog answers) :
    f.result? (answers.mapValues Aggregate.ofJson) = f.answer? catalog answers := by
  rw [result?_eq_ofCounts?, answer?, counts_eq_answeredCounts hdistinct h]

/-- The answers to facets that share no key are the answers to each of the facets. -/
theorem isAnswered_of_mem {facets : List Facet} (hlookups : (facets.flatMap lookupKeys).Nodup)
    (h : Answers ((aggregations? catalog facets).getD []) answers) (hf : f ∈ facets) :
    f.IsAnswered catalog answers := by
  have hsent := getD_aggregations?_of_nodup catalog hlookups
  constructor
  · intro key hkey
    rw [h.mem_keys_iff key, hsent, keys_flatMap_entries, List.mem_flatMap]
    constructor
    · rintro ⟨g, hg, hmem⟩
      have hkeyg : key ∈ g.lookupKeys := (g.emittedKeys_sublist catalog).subset hmem
      rw [eq_of_mem_lookupKeys hlookups hf hg hkey hkeyg]
      exact hmem
    · exact fun hmem => ⟨f, hf, hmem⟩
  · intro key a v hmem hv
    refine h.answered key a v ?_ hv
    rw [hsent, List.mem_flatMap]
    exact ⟨f, hf, hmem⟩

end Facet

/-! ### Reading the answers to a request -/

/-- **From facets to counts and back.** Take a request of which no two counts are looked up under
one key, and a result in JSON in which no object repeats a key and whose parts besides the
aggregations can be read and tell a positive total. If its aggregations answer exactly those that
the request is lowered to, each in its shape, then the result is read, and the facets of the
response are what the requested facets should contribute, in their order. -/
theorem SearchResponse.facets_of_answers (catalog : Catalog) (request : SearchRequest)
    {entries answers : List (String × Json)} {base : SearchResult}
    (hlookups : (request.facets.flatMap Facet.lookupKeys).Nodup)
    (hdistinct : (Json.object entries).keysDistinct)
    (hbase : SearchResult.ofJson (.object (Table.without entries "aggregations")) = .ok base)
    (htotal : base.total ≠ 0)
    (haggs : (Table.get? entries "aggregations").getD (.object []) = .object answers)
    (hanswers : Answers ((aggregations? catalog request.facets).getD []) answers) :
    ∃ r, SearchResult.ofJson (.object entries) = .ok r ∧
      (SearchResponse.ofResult r (some request)).facets =
        request.facets.filterMap (Facet.answer? catalog answers) := by
  have hvalues := SearchResult.keysDistinct_aggregations hdistinct haggs
  refine ⟨_, SearchResult.ofJson_of_aggregations hdistinct haggs hbase, ?_⟩
  have htotal : SearchResult.total { base with
    aggregations := Table.mapValues Aggregate.ofJson answers } ≠ 0 := htotal
  rw [SearchResponse.ofResult, SearchResult.facets_toResponse htotal]
  refine List.filterMap_congr fun f hf => ?_
  exact Facet.result?_eq_answer? hvalues (Facet.isAnswered_of_mem hlookups hanswers hf)

/-- Facets with a field, with a field and a filter, with a filter only and on intervals, answered by
an engine that sends the answers in another order: all are read back. -/
theorem SearchResponse.facets_of_mixed_answers :
    let request : SearchRequest := { facets := [
      { fieldName := "Brand", counted := .terms none none },
      { id := some "size", fieldName := "Size", filter := some (.ids ["1"]),
        counted := .terms none none },
      { id := some "sale", filter := some (.ids ["2"]), counted := .terms none none },
      { id := some "none", counted := .terms none none },
      { id := some "price", fieldName := "Price",
        counted := .intervals [{ id := "low" }, { id := "high" }] }] }
    let bucket (key : String) (n : Nat) : Json :=
      .object [("key", .string key), ("doc_count", .nat n)]
    let answers : List (String × Json) := [
      ("price-high", .object [("doc_count", .nat 0)]),
      ("price-low", .object [("doc_count", .nat 4)]),
      ("sale", .object [("doc_count", .nat 2)]),
      ("size", .object [("doc_count", .nat 3),
        ("size", .object [("buckets", .array [bucket "xl" 3])])]),
      ("Brand", .object [("buckets", .array [bucket "acme" 5, bucket "zeta" 0])])]
    let entries : List (String × Json) := [
      ("aggregations", .object answers), ("hits", .object [("total", .nat 9)])]
    ∃ r, SearchResult.ofJson (.object entries) = .ok r ∧
      (SearchResponse.ofResult r (some request)).facets = [
        ⟨"Brand", [⟨"acme", 5⟩]⟩, ⟨"size", [⟨"xl", 3⟩]⟩, ⟨"sale", [⟨"sale", 2⟩]⟩,
        ⟨"price", [⟨"low", 4⟩]⟩] := by
  intro request bucket answers entries
  have hdistinct : (Json.object entries).keysDistinct := by decide
  have hbase : SearchResult.ofJson (.object (Table.without entries "aggregations")) =
      .ok { page := { total := some (.count 9) } } := rfl
  have hkeys : (Table.keys answers).Perm
      (Table.keys ((aggregations? .empty request.facets).getD [])) := by decide
  have hall : ∀ e ∈ (aggregations? .empty request.facets).getD [],
      ∃ v, Table.get? answers e.1 = some v ∧ e.2.Answered e.1 v := by
    have hbrands : ∀ b ∈ [bucket "acme" 5, bucket "zeta" 0], b.IsBucket :=
      List.forall_mem_cons.mpr ⟨⟨rfl, rfl⟩, List.forall_mem_singleton.mpr ⟨rfl, rfl⟩⟩
    have hsizes : ∀ b ∈ [bucket "xl" 3], b.IsBucket := List.forall_mem_singleton.mpr ⟨rfl, rfl⟩
    refine List.forall_mem_cons.mpr ⟨⟨_, rfl, rfl, _, rfl, hbrands⟩, ?_⟩
    refine List.forall_mem_cons.mpr ⟨⟨_, rfl, rfl, _, rfl, rfl, _, rfl, hsizes⟩, ?_⟩
    refine List.forall_mem_cons.mpr ⟨⟨_, rfl, rfl, rfl⟩, ?_⟩
    refine List.forall_mem_cons.mpr ⟨⟨_, rfl, rfl, rfl⟩, ?_⟩
    exact List.forall_mem_singleton.mpr ⟨_, rfl, rfl, rfl⟩
  have hanswers : Answers ((aggregations? .empty request.facets).getD []) answers := by
    refine ⟨fun key => hkeys.mem_iff, fun key a v hmem hv => ?_⟩
    obtain ⟨w, hw, hanswered⟩ := hall (key, a) hmem
    rw [Option.some.inj (hv.symm.trans hw)]
    exact hanswered
  obtain ⟨r, hread, hfacets⟩ := SearchResponse.facets_of_answers .empty request (by decide)
    hdistinct hbase (by decide) rfl hanswers
  exact ⟨r, hread, hfacets.trans rfl⟩

end SearchBridge
