import SearchBridge.Proofs.Body.DistinctKeys
import SearchBridge.Proofs.Format.ReadBack
import SearchBridge.Proofs.Query.WrittenForm

/-!
# Written bodies can be told apart

The text of a search body determines all of the body but its index, which is not written. This
holds for the bodies of requests. In general it fails for sort clauses: one on a field called
`_score` without further settings is written like one on the score. But a sort clause of a request
on a field says where documents without the field go, so that it is not taken for one on the score.

## Main definitions

* `Aggregation.IsFinite`, `SearchBody.IsReadable` : what a written form can show.

## Main results

* `Aggregation.eq_of_toJson_eq` : the written form of an aggregation determines it.
* `SortField.toClause_eq_of_toJson_eq` : the written form of a criterion's clause determines it.
* `SearchBody.eq_of_toJson_eq` : the written form of a body determines it, apart from its index.
* `SearchBody.compact_toJson_eq_iff` : so does the text of the body of a request.
-/

namespace SearchBridge

open Json

/-! ### Aggregations -/

namespace Aggregation

mutual

/-- The numbers in the queries of an aggregation are finite. -/
def IsFinite : Aggregation → Prop
  | .terms _ _ _ => True
  | .filter query nested => query.IsFinite ∧ IsFiniteTable nested

/-- The numbers in the queries of named aggregations are finite. -/
def IsFiniteTable : List (String × Aggregation) → Prop
  | [] => True
  | (_, a) :: rest => IsFinite a ∧ IsFiniteTable rest

end

theorem isFiniteTable_iff : {t : List (String × Aggregation)} →
    IsFiniteTable t ↔ ∀ e ∈ t, e.2.IsFinite
  | [] => by simp [IsFiniteTable]
  | (key, a) :: rest => by rw [IsFiniteTable, List.forall_mem_cons, isFiniteTable_iff]

theorem terms_eq_of_toJson_eq {field field' : String} {size size' : Option UInt32}
    {values values' : Option (List String)} (h : (Aggregation.terms field size values).toJson =
      (Aggregation.terms field' size' values').toJson) :
    Aggregation.terms field size values = Aggregation.terms field' size' values' := by
  simp only [toJson, Json.object.injEq, List.cons.injEq, Prod.mk.injEq, true_and, and_true] at h
  have hfound (key : String) := congrArg (Table.get? · key) h
  have hfield := hfound "field"
  have hsize := hfound "size"
  have hvalues := hfound "include"
  simp only [Table.get?_append, get?_whenSome, Table.get?_cons, Table.get?_nil, ↓reduceIte,
    String.reduceEq, Option.or_none, Option.none_or, Option.some.injEq,
    Json.string.injEq] at hfield hsize hvalues
  rw [hfield, Option.map_injective word_injective hsize,
    Option.map_injective strings_injective hvalues]

mutual

/-- **The written form of an aggregation determines it.** -/
theorem eq_of_toJson_eq : (a b : Aggregation) → a.IsFinite → b.IsFinite → a.toJson = b.toJson →
    a = b
  | .terms _ _ _, .terms _ _ _, _, _, h => terms_eq_of_toJson_eq h
  | .terms _ _ _, .filter _ _, _, _, h => by simp [toJson] at h
  | .filter _ _, .terms _ _ _, _, _, h => by simp [toJson] at h
  | .filter q s, .filter r t, ⟨hq, hs⟩, ⟨hr, ht⟩, h => by
    have hfound (key : String) := congrArg (Table.get? · key) (Json.object.inj h)
    have hquery := hfound "filter"
    have hnested := hfound "aggs"
    simp only [Table.get?_append, get?_whenNonempty, Table.get?_cons, Table.get?_nil, ↓reduceIte,
      String.reduceEq, Option.or_none, Option.none_or, Option.some.injEq]
      at hquery hnested
    rw [Query.eq_of_toJson_eq q r hq hr hquery, eq_of_tableEntries_eq s t hs ht
      (eq_of_ite_eq (fun _ _ => Json.object.inj) hnested)]

theorem eq_of_tableEntries_eq : (s t : List (String × Aggregation)) → IsFiniteTable s →
    IsFiniteTable t → tableEntries s = tableEntries t → s = t
  | [], [], _, _, _ => rfl
  | [], _ :: _, _, _, h => nomatch h
  | _ :: _, [], _, _, h => nomatch h
  | (_, a) :: s, (_, b) :: t, ⟨ha, hs⟩, ⟨hb, ht⟩, h => by
    rw [tableEntries, tableEntries, List.cons.injEq, Prod.mk.injEq] at h
    rw [h.1.1, eq_of_toJson_eq a b ha hb h.1.2, eq_of_tableEntries_eq s t hs ht h.2]

end

end Aggregation

/-! ### Sort clauses -/

theorem SortOrder.toJson_injective : Function.Injective SortOrder.toJson := by
  intro a b h
  cases a <;> cases b
  · rfl
  · exact absurd (Json.string.inj h) (by decide)
  · exact absurd (Json.string.inj h) (by decide)
  · rfl

namespace SortClause

/-- The sort clauses that the criteria of requests become, if their coordinates are finite. -/
inductive OfCriterion : SortClause → Prop
  | field (name : String) (order : SortOrder) :
    OfCriterion (.field name order (some "_last") (some .long))
  | score (order : SortOrder) : OfCriterion (.score order)
  | geoDistance (name : String) {p : GeoPoint} (hp : p.IsFinite) (order : SortOrder) :
    OfCriterion (.geoDistance name [p] order)

theorem ofCriterion_toClause {s : SortField} (h : s.IsFinite) : OfCriterion s.toClause := by
  rw [SortField.toClause]
  split
  · next location hlocation => exact .geoDistance _ (h location hlocation) _
  · split
    · exact .score _
    · exact .field _ _

/-- The written form of a criterion's clause determines it. Clauses on a field and on the score are
told apart by the place of documents without the field, clauses on a field and on distance by what
the key of the former, be it the key of the latter, stands before. -/
theorem OfCriterion.eq_of_toJson_eq {c d : SortClause} (hc : c.OfCriterion) (hd : d.OfCriterion)
    (h : c.toJson = d.toJson) : c = d := by
  cases hc with
  | field name order =>
    cases hd with
    | field name' order' =>
      simp [toJson, whenSome, SortOrder.toJson_injective.eq_iff] at h
      rw [h.1, h.2]
    | score order' => simp [toJson, whenSome] at h
    | geoDistance name' hp order' => cases order <;> simp [toJson, whenSome, SortOrder.toJson] at h
  | score order =>
    cases hd with
    | field name' order' => simp [toJson, whenSome] at h
    | score order' =>
      simp [toJson, SortOrder.toJson_injective.eq_iff] at h
      rw [h]
    | geoDistance name' hp order' => simp [toJson] at h
  | geoDistance name hp order =>
    cases hd with
    | field name' order' => cases order' <;> simp [toJson, whenSome, SortOrder.toJson] at h
    | score order' => simp [toJson] at h
    | geoDistance name' hp' order' =>
      simp [toJson, SortOrder.toJson_injective.eq_iff] at h
      rw [h.1.1, GeoPoint.eq_of_toLatLon_eq hp hp' h.1.2, h.2]

/-- A clause on a field that says nothing more is not told from one on the score. -/
example : (SortClause.field "_score" .descending none none).toJson =
    (SortClause.score .descending).toJson :=
  rfl

theorem eq_of_map_toJson_eq {cs ds : List SortClause} (hcs : ∀ c ∈ cs, c.OfCriterion)
    (hds : ∀ d ∈ ds, d.OfCriterion) (h : cs.map toJson = ds.map toJson) : cs = ds := by
  induction cs generalizing ds with
  | nil => exact (List.map_eq_nil_iff.mp h.symm).symm
  | cons c cs ih =>
    cases ds with
    | nil => cases h
    | cons d ds =>
      obtain ⟨hc, hcs⟩ := List.forall_mem_cons.mp hcs
      obtain ⟨hd, hds⟩ := List.forall_mem_cons.mp hds
      rw [List.map_cons, List.map_cons, List.cons.injEq] at h
      rw [hc.eq_of_toJson_eq hd h.1, ih hcs hds h.2]

end SortClause

/-! ### Bodies -/

namespace SearchBody

/-- What the bodies of requests have: all numbers are finite, and the sort clauses are those of
criteria. -/
structure IsReadable (b : SearchBody) : Prop where
  query : ∀ q ∈ b.query, q.IsFinite
  postFilter : ∀ q ∈ b.postFilter, q.IsFinite
  aggregations : ∀ t ∈ b.aggregations, Aggregation.IsFiniteTable t
  sort : ∀ clauses ∈ b.sort, ∀ c ∈ clauses, c.OfCriterion

/-- The written form of a body determines it, apart from its index. -/
theorem eq_of_toJson_eq {a b : SearchBody} (ha : a.IsReadable) (hb : b.IsReadable)
    (h : a.toJson = b.toJson) : { a with index := b.index } = b := by
  have hfound (key : String) := congrArg (Table.get? · key) (Json.object.inj h)
  have hquery := hfound "query"
  have hpostFilter := hfound "post_filter"
  have haggregations := hfound "aggs"
  have hsort := hfound "sort"
  have hstart := hfound "from"
  have hsize := hfound "size"
  have htrackScores := hfound "track_scores"
  have htrackTotalHits := hfound "track_total_hits"
  have hsourceIncludes := hfound "_source"
  simp only [Table.get?_append, get?_whenSome, ↓reduceIte, String.reduceEq, Option.or_none,
    Option.none_or, Option.or_self]
    at hquery hpostFilter haggregations hsort hstart hsize htrackScores htrackTotalHits
      hsourceIncludes
  have hword : Function.Injective fun n : Int64 => int n.toInt := fun _ _ h =>
    Int64.toInt_inj.mp (int_injective h)
  have hflag : Function.Injective Json.bool := fun _ _ => Json.bool.inj
  have hfields : Function.Injective fun f => object [("includes", strings f)] := fun f g h => by
    simpa [strings_injective.eq_iff] using h
  cases a
  cases b
  rw [SearchBody.mk.injEq]
  refine ⟨rfl, ?_, ?_, ?_, ?_, Option.map_injective hword hstart,
    Option.map_injective hword hsize, Option.map_injective hflag htrackScores,
    Option.map_injective hflag htrackTotalHits, Option.map_injective hfields hsourceIncludes⟩
  · exact eq_of_map_eq
      (fun q hq r hr => Query.eq_of_toJson_eq q r (ha.query q hq) (hb.query r hr)) hquery
  · exact eq_of_map_eq (fun q hq r hr =>
      Query.eq_of_toJson_eq q r (ha.postFilter q hq) (hb.postFilter r hr)) hpostFilter
  · exact eq_of_map_eq (fun s hs t ht heq => Aggregation.eq_of_tableEntries_eq s t
      (ha.aggregations s hs) (hb.aggregations t ht) (Json.object.inj heq)) haggregations
  · exact eq_of_map_eq (fun cs hcs ds hds heq => SortClause.eq_of_map_toJson_eq (ha.sort cs hcs)
      (hb.sort ds hds) (Json.array.inj heq)) hsort

end SearchBody

/-! ### Bodies of requests -/

namespace Filter

variable {catalog : Catalog}

mutual

/-- The clauses that the leaves of a filter stand for have its numbers. -/
theorem isFinite_of_mem_clauses : (f : Filter) → f.IsFinite → ∀ c ∈ f.clauses catalog, c.IsFinite
  | .ids _, _ | .term _ _, _ | .wildcard _ _, _ => List.forall_mem_singleton.mpr trivial
  | .range _ _, _ => List.forall_mem_map.mpr fun _ _ => trivial
  | .geoDistance _ _ _, h => List.forall_mem_singleton.mpr h
  | .not none, _ => List.forall_mem_nil _
  | .not (some f), h => isFinite_of_mem_clauses f h
  | .and fs, h | .or fs, h => isFinite_of_mem_clausesList fs h

theorem isFinite_of_mem_clausesList : (fs : List Filter) → IsFiniteList fs →
    ∀ c ∈ clausesList catalog fs, c.IsFinite
  | [], _ => List.forall_mem_nil _
  | f :: rest, h => by
    rw [clausesList, List.forall_mem_append]
    exact ⟨isFinite_of_mem_clauses f h.1, isFinite_of_mem_clausesList rest h.2⟩

end

/-- The query lowered from a filter has its numbers. -/
theorem isFinite_of_lower? {f : Filter} (h : f.IsFinite) {q : Query}
    (hq : f.lower? catalog = some q) : q.IsFinite := by
  have hclauses := clauses_lower? catalog f
  rw [hq, Option.toList_some, Query.clausesList, Query.clausesList, List.append_nil] at hclauses
  rw [Query.IsFinite, hclauses]
  exact isFinite_of_mem_clauses f h

end Filter

namespace Facet

variable {catalog : Catalog} {f : Facet}

theorem isFinite_of_scope? (h : f.IsFinite) {q : Query} (hq : f.scope? catalog = some q) :
    q.IsFinite := by
  obtain ⟨g, hg, hlower⟩ := Option.bind_eq_some_iff.mp hq
  exact Filter.isFinite_of_lower? (h g hg) hlower

theorem isFinite_of_termsAggregation? {target : String} {size : Option Int32}
    {values : Option (List String)} {a : Aggregation}
    (ha : termsAggregation? target size values = some a) : a.IsFinite := by
  rw [termsAggregation?] at ha
  split at ha
  · cases ha
  · rw [← Option.some.inj ha]
    trivial

/-- The aggregations of a facet have the numbers of its filter. -/
theorem isFinite_of_mem_entries (h : f.IsFinite) {e : String × Aggregation}
    (he : e ∈ f.entries catalog) : e.2.IsFinite := by
  revert he
  fun_cases entries catalog f with
  | case1 => exact fun h => absurd h List.not_mem_nil
  | case2 target scope size values _ terms hterms hscope =>
    intro he
    rw [List.mem_singleton.mp he]
    exact isFinite_of_termsAggregation? hterms
  | case3 target scope size values _ query hscope =>
    intro he
    rw [List.mem_singleton.mp he]
    refine ⟨isFinite_of_scope? h hscope, Aggregation.isFiniteTable_iff.mpr ?_⟩
    rw [List.forall_mem_map]
    exact fun a ha => isFinite_of_termsAggregation? (Option.mem_toList.mp ha)
  | case4 target scope values =>
    intro he
    obtain ⟨v, -, rfl⟩ := List.mem_map.mp he
    have hscope : ∀ q ∈ (f.scope? catalog).toList, q.IsFinite := fun q hq =>
      isFinite_of_scope? h (Option.mem_toList.mp hq)
    refine ⟨Query.isFinite_bool_iff.mpr ⟨List.forall_mem_cons.mpr ⟨?_, hscope⟩,
      List.forall_mem_nil _, List.forall_mem_nil _⟩, trivial⟩
    exact List.forall_mem_singleton.mpr trivial

end Facet

namespace SearchRequest

variable {r : SearchRequest} (h : r.IsFinite) (index : String) (catalog : Catalog)
  (options : CompilerOptions)

theorem isFinite_keywordQuery? {q : Query} (hq : r.keywordQuery? options = some q) :
    q.IsFinite := by
  obtain ⟨keywords, -, rfl⟩ := Option.map_eq_some_iff.mp hq
  exact List.forall_mem_singleton.mpr trivial

include h

theorem isFiniteTable_aggregations? {t : Table Aggregation}
    (ht : aggregations? catalog r.facets = some t) : Aggregation.IsFiniteTable t := by
  refine Aggregation.isFiniteTable_iff.mpr fun e he => ?_
  have htable : t = aggregationTable catalog r.facets := by
    rw [aggregations?] at ht
    split at ht
    · cases ht
    · exact (Option.some.inj ht).symm
  rw [htable] at he
  obtain ⟨f, hf, hentry⟩ := List.mem_flatMap.mp (Table.mem_of_mem_foldl_putNew he)
  exact Facet.isFinite_of_mem_entries (h.facets f hf) hentry

theorem ofCriterion_sortClauses? {cs : List SortClause} (hcs : r.sortClauses? = some cs) :
    ∀ c ∈ cs, c.OfCriterion := by
  rw [sortClauses?] at hcs
  split at hcs
  · cases hcs
  · rw [← Option.some.inj hcs, List.forall_mem_map]
    exact fun s hs => SortClause.ofCriterion_toClause (h.sorting s hs)

theorem isReadable_compile : (r.compile index catalog options).IsReadable where
  query _ hq := isFinite_keywordQuery? options hq
  postFilter q hq := by
    obtain ⟨f, hf, hlower⟩ := Option.bind_eq_some_iff.mp hq
    exact Filter.isFinite_of_lower? (h.filter f hf) hlower
  aggregations _ ht := isFiniteTable_aggregations? h catalog ht
  sort _ hcs := ofCriterion_sortClauses? h hcs

end SearchRequest

namespace SearchBody

theorem isReadable_ofRequest {r : Option SearchRequest} (h : ∀ q ∈ r, q.IsFinite)
    (index : String) (catalog : Catalog) (options : CompilerOptions) :
    (SearchBody.ofRequest r index catalog options).IsReadable := by
  cases r with
  | none => exact ⟨nofun, nofun, nofun, nofun⟩
  | some r => exact SearchRequest.isReadable_compile (h r rfl) index catalog options

/-- **The text of a body determines the body.** Two bodies of requests whose coordinates and
distances are finite, whatever the catalogs and the options they are compiled with, have the same
text exactly if they are equal in everything but the index, which is not part of the text. -/
theorem compact_toJson_eq_iff {r s : Option SearchRequest} (hr : ∀ q ∈ r, q.IsFinite)
    (hs : ∀ q ∈ s, q.IsFinite) (index index' : String) (catalog catalog' : Catalog)
    (options options' : CompilerOptions) :
    (ofRequest r index catalog options).toJson.compact =
        (ofRequest s index' catalog' options').toJson.compact ↔
      { ofRequest r index catalog options with index := index' } =
        ofRequest s index' catalog' options' := by
  have hindex : (ofRequest s index' catalog' options').index = index' := by cases s <;> rfl
  constructor
  · intro h
    have hbody := eq_of_toJson_eq (isReadable_ofRequest hr index catalog options)
      (isReadable_ofRequest hs index' catalog' options') (Json.compact_injective h)
    rwa [hindex] at hbody
  · intro h
    rw [← h]
    rfl

/-- Nearby documents in the order of a field called `_score`, and by their scores. -/
theorem compact_toJson_ne_of_score_field :
    let origin : GeoPoint := ⟨.finite default, .finite default⟩
    let nearby : Filter := .geoDistance "Place" origin (.finite default)
    let byField : SearchRequest := { filter := some nearby, sorting := [{ fieldName := "_score" }] }
    let byScore : SearchRequest := { filter := some nearby, sorting := [{ fieldName := "SCORE" }] }
    byField.IsFinite ∧ byScore.IsFinite ∧
      (ofRequest (some byField) "places" .empty {}).toJson.compact ≠
        (ofRequest (some byScore) "places" .empty {}).toJson.compact := by
  intro origin nearby byField byScore
  have hnearby : nearby.IsFinite := ⟨⟨⟨_, rfl⟩, _, rfl⟩, _, rfl⟩
  have hfinite (name : String) :
      ({ filter := some nearby, sorting := [{ fieldName := name }] } : SearchRequest).IsFinite :=
    ⟨fun f hf => Option.some.inj hf ▸ hnearby, List.forall_mem_singleton.mpr nofun,
      List.forall_mem_nil _⟩
  have hsome (r : SearchRequest) (h : r.IsFinite) : ∀ q ∈ some r, q.IsFinite :=
    fun q hq => Option.some.inj hq ▸ h
  refine ⟨hfinite "_score", hfinite "SCORE", fun htext => ?_⟩
  have hbody := (compact_toJson_eq_iff (hsome byField (hfinite "_score"))
    (hsome byScore (hfinite "SCORE")) "places" "places" .empty .empty {} {}).mp htext
  exact absurd (congrArg SearchBody.sort hbody) (by decide +kernel)

end SearchBody

end SearchBridge
