import SearchBridge.Body.Compile
import SearchBridge.Proofs.Facet.Keys
import SearchBridge.Proofs.Filter.Clauses
import SearchBridge.Proofs.Json.DistinctKeys

/-!
# Distinct keys of search bodies

The engine's language names fields by keys. Most clauses give the field's name an object of its own,
but a condition on distance puts it beside the entry `distance`, and a sort clause on distance puts
it beside the entries `order` and `unit`. So a body repeats a key if a field of that name is meant
there, in any case of letters, and in no other way: the names of options, the keys of the
aggregations and the names of fields under the other clauses never meet.

## Main definitions

* `Clause.RepeatsKey`, `SortClause.RepeatsKey` : clauses on distance that repeat a key.
* `Filter.RepeatsKey`, `SortField.RepeatsKey` : the parts of a request that become such clauses.
* `Facet.IsSent` : facets that an aggregation of the body comes from.

## Main results

* `Query.keysDistinct_toJson_iff` : when a query repeats no key.
* `SearchRequest.keysDistinct_compile_iff` : when the body of a request repeats no key.
* `SearchRequest.not_keysDistinct_compile` : a field called `distance` makes a body repeat a key.
-/

namespace SearchBridge

open Json

/-! ### Queries -/

/-- A condition on the distance of a field that is called like the entry for the distance. -/
def Clause.RepeatsKey : Clause → Prop
  | .geoDistance field _ _ => field = "distance"
  | _ => False

@[simp] theorem RangeBounds.keysDistinct_toJson (b : RangeBounds) :
    b.toJson.keysDistinct = true := by
  rw [toJson, keysDistinct_object]
  constructor
  · have hsub := (((keys_whenSome_sublist "gt" .string b.gt).append
      (keys_whenSome_sublist "gte" .string b.gte)).append
      (keys_whenSome_sublist "lt" .string b.lt)).append
      (keys_whenSome_sublist "lte" .string b.lte)
    rw [Table.keys_append, Table.keys_append, Table.keys_append]
    exact List.Nodup.sublist hsub (by decide)
  · simp [entriesDistinct_append, entriesDistinct_whenSome]

@[simp] theorem Fuzziness.keysDistinct_toJson (f : Fuzziness) : f.toJson.keysDistinct = true := by
  cases f with
  | editDistance => rfl
  | auto thresholds =>
    rw [toJson]
    split <;> rfl

@[simp] theorem GeoPoint.keysDistinct_toLatLon (p : GeoPoint) : p.toLatLon.keysDistinct = true := by
  rw [toLatLon, keysDistinct_object]
  exact ⟨by simp, by simp⟩

/-- A clause repeats a key only if it is a condition on the distance of a field called like its
entry for the distance. -/
theorem Clause.keysDistinct_toJson_iff (c : Clause) : c.toJson.keysDistinct ↔ ¬c.RepeatsKey := by
  cases c with
  | ids values => simp [toJson, RepeatsKey, keysDistinct_single]
  | terms field values => simp [toJson, RepeatsKey, keysDistinct_single]
  | range field bounds => simp [toJson, RepeatsKey, keysDistinct_single]
  | wildcard field pattern => simp [toJson, RepeatsKey, keysDistinct_single]
  | geoDistance field centre kilometres =>
    have hkeys : (Table.keys [("distance", Json.string (kilometres.display ++ "km")),
        (field, centre.toLatLon)]).Nodup ↔ ¬field = "distance" := by simp [eq_comm]
    rw [toJson, keysDistinct_single, keysDistinct_object, hkeys, RepeatsKey]
    exact and_iff_left (by simp)
  | multiMatch text fields analyzer operator fuzziness =>
    refine iff_of_true (keysDistinct_single.mpr (keysDistinct_object.mpr ⟨?_, ?_⟩)) not_false
    · have hsub := (((List.Sublist.refl ["query", "fields"]).append
        (keys_whenSome_sublist "analyzer" .string analyzer)).append
        (List.Sublist.refl ["operator"])).append
        (keys_whenSome_sublist "fuzziness" Fuzziness.toJson fuzziness)
      rw [Table.keys_append, Table.keys_append, Table.keys_append]
      exact List.Nodup.sublist hsub (by decide)
    · simp [entriesDistinct_append, entriesDistinct_whenSome]

namespace Query

theorem toJsonList_eq_map (qs : List Query) : toJsonList qs = qs.map toJson := by
  induction qs with
  | nil => rfl
  | cons q rest ih => rw [toJsonList, ih, List.map_cons]

/-- A boolean query adds no key that it could repeat. -/
theorem keysDistinct_bool_iff (must should mustNot : List Query) (minimum : Option UInt32) :
    (Query.bool must should mustNot minimum).toJson.keysDistinct ↔
      (∀ v ∈ toJsonList must, v.keysDistinct) ∧ (∀ v ∈ toJsonList should, v.keysDistinct) ∧
        ∀ v ∈ toJsonList mustNot, v.keysDistinct := by
  have hsub := (((keys_whenNonempty_sublist "must" .array (toJsonList must)).append
    (keys_whenNonempty_sublist "should" .array (toJsonList should))).append
    (keys_whenNonempty_sublist "must_not" .array (toJsonList mustNot))).append
    (keys_whenSome_sublist "minimum_should_match" (fun n : UInt32 => .nat n.toNat) minimum)
  rw [toJson, keysDistinct_single, keysDistinct_object, Table.keys_append, Table.keys_append,
    Table.keys_append]
  rw [and_iff_right (List.Nodup.sublist hsub (by decide))]
  simp [entriesDistinct_append, entriesDistinct_whenSome, entriesDistinct_whenNonempty]

mutual

/-- A query repeats a key only in one of its clauses. -/
theorem keysDistinct_toJson_iff : (q : Query) →
    (q.toJson.keysDistinct ↔ ∀ c ∈ q.clauses, ¬c.RepeatsKey)
  | .matchAll => iff_of_true rfl fun _ h => absurd h List.not_mem_nil
  | .matchNone => iff_of_true rfl fun _ h => absurd h List.not_mem_nil
  | .clause c => by rw [toJson, clauses, List.forall_mem_singleton, c.keysDistinct_toJson_iff]
  | .bool must should mustNot minimum => by
    rw [keysDistinct_bool_iff, clauses, List.forall_mem_append, List.forall_mem_append, and_assoc,
      keysDistinct_toJsonList_iff must, keysDistinct_toJsonList_iff should,
      keysDistinct_toJsonList_iff mustNot]

theorem keysDistinct_toJsonList_iff : (qs : List Query) →
    ((∀ v ∈ toJsonList qs, v.keysDistinct) ↔ ∀ c ∈ clausesList qs, ¬c.RepeatsKey)
  | [] => iff_of_true (fun _ h => absurd h List.not_mem_nil) fun _ h => absurd h List.not_mem_nil
  | q :: rest => by
    rw [toJsonList, clausesList, List.forall_mem_cons, List.forall_mem_append,
      keysDistinct_toJson_iff q, keysDistinct_toJsonList_iff rest]

end

end Query

/-! ### Filters -/

namespace Filter

mutual

/-- The fields on whose distance a filter has a condition, at any depth. -/
def distanceFields : Filter → List String
  | .geoDistance name _ _ => [name]
  | .not (some f) => distanceFields f
  | .and fs => distanceFieldsList fs
  | .or fs => distanceFieldsList fs
  | _ => []

/-- The fields on whose distance the filters in a list have conditions. -/
def distanceFieldsList : List Filter → List String
  | [] => []
  | f :: rest => distanceFields f ++ distanceFieldsList rest

end

/-- A filter with a condition on the distance of a field called `distance`, in any case of
letters. -/
def RepeatsKey (f : Filter) : Prop :=
  ∃ name ∈ f.distanceFields, SearchBridge.fieldName name = "distance"

variable (catalog : Catalog)

mutual

/-- The clauses of a filter that repeat a key come from conditions on distance. -/
theorem exists_repeatsKey_clauses_iff : (f : Filter) →
    ((∃ c ∈ f.clauses catalog, c.RepeatsKey) ↔
      ∃ name ∈ f.distanceFields, SearchBridge.fieldName name = "distance")
  | .ids _ | .term _ _ | .wildcard _ _ => by simp [clauses, distanceFields, Clause.RepeatsKey]
  | .geoDistance _ _ _ => by simp [clauses, distanceFields, Clause.RepeatsKey]
  | .range _ _ => by simp [clauses, distanceFields, Clause.RepeatsKey]
  | .not none => by simp [clauses, distanceFields]
  | .not (some f) => exists_repeatsKey_clauses_iff f
  | .and fs | .or fs => exists_repeatsKey_clausesList_iff fs

theorem exists_repeatsKey_clausesList_iff : (fs : List Filter) →
    ((∃ c ∈ clausesList catalog fs, c.RepeatsKey) ↔
      ∃ name ∈ distanceFieldsList fs, SearchBridge.fieldName name = "distance")
  | [] => by simp [clausesList, distanceFieldsList]
  | f :: rest => by
    simp only [clausesList, distanceFieldsList, List.mem_append, or_and_right, exists_or]
    rw [exists_repeatsKey_clauses_iff f, exists_repeatsKey_clausesList_iff rest]

end

/-- The query lowered from a filter repeats a key only if the filter does. -/
theorem keysDistinct_lower?_iff (f : Filter) :
    (∀ q ∈ f.lower? catalog, q.toJson.keysDistinct) ↔ ¬f.RepeatsKey := by
  rw [RepeatsKey, ← exists_repeatsKey_clauses_iff catalog f, ← clauses_lower?]
  cases f.lower? catalog with
  | none => simp [Query.clausesList]
  | some q => simp [Query.clausesList, Query.keysDistinct_toJson_iff]

end Filter

/-! ### Aggregations -/

namespace Aggregation

theorem tableEntries_eq_mapValues : (t : List (String × Aggregation)) →
    tableEntries t = Table.mapValues toJson t
  | [] => rfl
  | (_, _) :: rest => by rw [tableEntries, tableEntries_eq_mapValues rest, Table.mapValues_cons]

/-- Named aggregations repeat no key if their names are distinct and none of them does. -/
theorem keysDistinct_tableJson_iff {t : Table Aggregation} :
    (tableJson t).keysDistinct ↔ t.keys.Nodup ∧ ∀ e ∈ t, e.2.toJson.keysDistinct := by
  rw [tableJson, keysDistinct_object, tableEntries_eq_mapValues, Table.keys_mapValues,
    entriesDistinct_iff, Table.mapValues, List.forall_mem_map]

theorem keysDistinct_terms (field : String) (size : Option UInt32) (values : Option (List String)) :
    (Aggregation.terms field size values).toJson.keysDistinct := by
  rw [toJson, keysDistinct_single, keysDistinct_object]
  constructor
  · have hsub := ((List.Sublist.refl ["field"]).append
      (keys_whenSome_sublist "size" (fun n : UInt32 => .nat n.toNat) size)).append
      (keys_whenSome_sublist "include" .strings values)
    rw [Table.keys_append, Table.keys_append]
    exact List.Nodup.sublist hsub (by decide)
  · simp [entriesDistinct_append, entriesDistinct_whenSome]

/-- A filter aggregation repeats a key only in its query or in its own aggregations. -/
theorem keysDistinct_filter_iff {query : Query} {nested : List (String × Aggregation)} :
    (Aggregation.filter query nested).toJson.keysDistinct ↔
      query.toJson.keysDistinct ∧ (tableJson nested).keysDistinct := by
  have hsub := (List.Sublist.refl ["filter"]).append
    (keys_whenNonempty_sublist "aggs" .object (tableEntries nested))
  rw [toJson, keysDistinct_object, Table.keys_append, entriesDistinct_append]
  refine (and_iff_right (List.Nodup.sublist hsub (by decide))).trans (and_congr (by simp) ?_)
  cases nested with
  | nil => exact iff_of_true rfl rfl
  | cons e rest => exact entriesDistinct_cons.trans (and_iff_left rfl)

end Aggregation

namespace Facet

variable (catalog : Catalog)

/-- The query that restricts a facet repeats a key only if the facet's filter does. -/
theorem keysDistinct_scope?_iff (f : Facet) :
    (∀ q ∈ f.scope? catalog, q.toJson.keysDistinct) ↔ ∀ g ∈ f.filter, ¬g.RepeatsKey := by
  rw [scope?]
  cases f.filter with
  | none => simp
  | some g => simpa using g.keysDistinct_lower?_iff catalog

theorem keysDistinct_of_termsAggregation? {target : String} {size : Option Int32}
    {values : Option (List String)} {a : Aggregation}
    (h : termsAggregation? target size values = some a) : a.toJson.keysDistinct := by
  rw [termsAggregation?] at h
  split at h
  · cases h
  · rw [← Option.some.inj h]
    exact Aggregation.keysDistinct_terms _ _ _

/-- The aggregations of a facet repeat a key only if the facet's filter does. -/
theorem keysDistinct_entries_iff {f : Facet} {e : String × Aggregation}
    (he : e ∈ f.entries catalog) : e.2.toJson.keysDistinct ↔ ∀ g ∈ f.filter, ¬g.RepeatsKey := by
  rw [← f.keysDistinct_scope?_iff catalog]
  revert he
  fun_cases entries catalog f with
  | case1 => exact fun h => absurd h List.not_mem_nil
  | case2 target scope size values _ terms hterms hscope =>
    have hscope : f.scope? catalog = none := hscope
    intro he
    rw [List.mem_singleton.mp he, hscope]
    exact iff_of_true (keysDistinct_of_termsAggregation? hterms) fun _ h => nomatch h
  | case3 target scope size values _ query hscope =>
    have hscope : f.scope? catalog = some query := hscope
    have hnested : (Aggregation.tableJson ((termsAggregation? target size values).toList.map
        fun a => (f.effectiveId, a))).keysDistinct := by
      cases hterms : termsAggregation? target size values with
      | none => rfl
      | some terms => exact keysDistinct_single.mpr (keysDistinct_of_termsAggregation? hterms)
    intro he
    rw [List.mem_singleton.mp he, Aggregation.keysDistinct_filter_iff, and_iff_left hnested, hscope]
    simp
  | case4 target scope values =>
    intro he
    obtain ⟨v, _, rfl⟩ := List.mem_map.mp he
    rw [Aggregation.keysDistinct_filter_iff, Query.keysDistinct_bool_iff, Query.toJsonList_eq_map]
    have hinterval : (Filter.intervalQuery target v.interval).toJson.keysDistinct :=
      (Query.keysDistinct_toJson_iff _).mpr (List.forall_mem_singleton.mpr not_false)
    simp [hinterval, scope, Query.toJsonList, Aggregation.tableJson, Aggregation.tableEntries,
      keysDistinct_object]

/-- Some aggregation that stands for the facet is sent with those of all facets. -/
def IsSent (facets : List Facet) (f : Facet) : Prop :=
  ∃ e ∈ f.entries catalog, e ∈ aggregationTable catalog facets

end Facet

/-- The aggregations of facets repeat a key only if the filter of a facet that is sent does. -/
theorem keysDistinct_aggregationTable_iff (catalog : Catalog) (facets : List Facet) :
    (Aggregation.tableJson (aggregationTable catalog facets)).keysDistinct ↔
      ∀ f ∈ facets, f.IsSent catalog facets → ∀ g ∈ f.filter, ¬g.RepeatsKey := by
  have hkeys : (aggregationTable catalog facets).keys.Nodup := Table.nodup_keys_foldl_putNew _
  rw [Aggregation.keysDistinct_tableJson_iff, and_iff_right hkeys]
  constructor
  · rintro h f _ ⟨e, he, hsent⟩
    exact (Facet.keysDistinct_entries_iff catalog he).mp (h e hsent)
  · intro h e hsent
    obtain ⟨f, hf, he⟩ := List.mem_flatMap.mp (Table.mem_of_mem_foldl_putNew hsent)
    exact (Facet.keysDistinct_entries_iff catalog he).mpr (h f hf ⟨e, he, hsent⟩)

/-! ### Sort clauses -/

/-- A sort clause on the distance of a field that is called like an entry beside it. -/
def SortClause.RepeatsKey : SortClause → Prop
  | .geoDistance name _ _ => name = "order" ∨ name = "unit"
  | _ => False

@[simp] theorem SortOrder.keysDistinct_toJson (o : SortOrder) : o.toJson.keysDistinct = true := by
  cases o <;> rfl

/-- A sort clause repeats a key only if it is on the distance of a field called like an entry beside
it. -/
theorem SortClause.keysDistinct_toJson_iff (c : SortClause) :
    c.toJson.keysDistinct ↔ ¬c.RepeatsKey := by
  cases c with
  | score order => simp [toJson, RepeatsKey, keysDistinct_single]
  | field name order missing unmappedType =>
    refine iff_of_true (keysDistinct_single.mpr (keysDistinct_object.mpr ⟨?_, ?_⟩)) not_false
    · have hsub := ((List.Sublist.refl ["order"]).append
        (keys_whenSome_sublist "missing" .string missing)).append
        (keys_whenSome_sublist "unmapped_type" (fun t => .string (FieldType.name t)) unmappedType)
      rw [Table.keys_append, Table.keys_append]
      exact List.Nodup.sublist hsub (by decide)
    · simp [entriesDistinct_append, entriesDistinct_whenSome]
  | geoDistance name points order =>
    have hkeys : (Table.keys [(name, Json.array (points.map GeoPoint.toLatLon)),
        ("order", order.toJson), ("unit", .string "km")]).Nodup ↔
          ¬(name = "order" ∨ name = "unit") := by simp
    have hpoints : (Json.array (points.map GeoPoint.toLatLon)).keysDistinct := by
      rw [keysDistinct_array, List.forall_mem_map]
      exact fun p _ => p.keysDistinct_toLatLon
    rw [toJson, keysDistinct_single, keysDistinct_object, hkeys, RepeatsKey]
    exact and_iff_left (by simp [hpoints])

/-- A criterion on the distance of a field called `order` or `unit`, in any case of letters. -/
def SortField.RepeatsKey (s : SortField) : Prop :=
  s.location.isSome ∧
    (SearchBridge.fieldName s.fieldName = "order" ∨ SearchBridge.fieldName s.fieldName = "unit")

theorem SortField.repeatsKey_toClause_iff (s : SortField) :
    s.toClause.RepeatsKey ↔ s.RepeatsKey := by
  rw [toClause, RepeatsKey]
  cases s.location with
  | some location => simp [SortClause.RepeatsKey]
  | none =>
    dsimp only
    split <;> simp [SortClause.RepeatsKey]

/-! ### Bodies -/

/-- A body repeats a key only in one of its parts. -/
theorem SearchBody.keysDistinct_toJson_iff (b : SearchBody) :
    b.toJson.keysDistinct ↔ (∀ q ∈ b.query, q.toJson.keysDistinct) ∧
      (∀ q ∈ b.postFilter, q.toJson.keysDistinct) ∧
      (∀ t ∈ b.aggregations, (Aggregation.tableJson t).keysDistinct) ∧
      ∀ clauses ∈ b.sort, ∀ c ∈ clauses, c.toJson.keysDistinct := by
  have hsub := ((((((((keys_whenSome_sublist "query" Query.toJson b.query).append
    (keys_whenSome_sublist "post_filter" Query.toJson b.postFilter)).append
    (keys_whenSome_sublist "aggs" Aggregation.tableJson b.aggregations)).append
    (keys_whenSome_sublist "sort" (fun s => .array (s.map SortClause.toJson)) b.sort)).append
    (keys_whenSome_sublist "from" (fun n => .int (Int64.toInt n)) b.start)).append
    (keys_whenSome_sublist "size" (fun n => .int (Int64.toInt n)) b.size)).append
    (keys_whenSome_sublist "track_scores" .bool b.trackScores)).append
    (keys_whenSome_sublist "track_total_hits" .bool b.trackTotalHits)).append
    (keys_whenSome_sublist "_source" (fun f => .object [("includes", .strings f)])
      b.sourceIncludes)
  rw [toJson, keysDistinct_object]
  simp only [Table.keys_append]
  refine (and_iff_right (List.Nodup.sublist hsub (by decide))).trans ?_
  simp [entriesDistinct_append, entriesDistinct_whenSome, keysDistinct_array, keysDistinct_single]

namespace SearchRequest

variable (r : SearchRequest) (index : String) (catalog : Catalog) (options : CompilerOptions)

theorem keysDistinct_keywordQuery? :
    ∀ q ∈ r.keywordQuery? options, q.toJson.keysDistinct := by
  intro q hq
  obtain ⟨keywords, _, rfl⟩ := Option.map_eq_some_iff.mp hq
  exact (Query.keysDistinct_toJson_iff _).mpr (List.forall_mem_singleton.mpr not_false)

/-- The aggregations of a request repeat a key only if the filter of a facet that is sent does. -/
theorem keysDistinct_aggregations?_iff :
    (∀ t ∈ aggregations? catalog r.facets, (Aggregation.tableJson t).keysDistinct) ↔
      ∀ g ∈ r.facets, g.IsSent catalog r.facets → ∀ f ∈ g.filter, ¬f.RepeatsKey := by
  rw [← keysDistinct_aggregationTable_iff, aggregations?]
  split
  · next h => exact iff_of_true (by simp) (h ▸ rfl)
  · simp

/-- The sort clauses of a request repeat a key only if one of its criteria does. -/
theorem keysDistinct_sortClauses?_iff :
    (∀ clauses ∈ r.sortClauses?, ∀ c ∈ clauses, c.toJson.keysDistinct) ↔
      ∀ s ∈ r.sorting, ¬s.RepeatsKey := by
  have hclauses : (∀ c ∈ r.sorting.map SortField.toClause, c.toJson.keysDistinct) ↔
      ∀ s ∈ r.sorting, ¬s.RepeatsKey := by
    rw [List.forall_mem_map]
    exact forall₂_congr fun s _ =>
      s.toClause.keysDistinct_toJson_iff.trans (not_congr s.repeatsKey_toClause_iff)
  rw [← hclauses, sortClauses?]
  split
  · next h => simp [h]
  · simp

/-- **When the body of a request repeats a key.** No object of the body repeats a key, at any depth,
exactly if neither the filter nor the filter of a facet that is sent has a condition on the distance
of a field called `distance`, and no criterion sorts by the distance of a field called `order` or
`unit`. -/
theorem keysDistinct_compile_iff :
    (r.compile index catalog options).toJson.keysDistinct ↔
      (∀ f ∈ r.filter, ¬f.RepeatsKey) ∧
      (∀ g ∈ r.facets, g.IsSent catalog r.facets → ∀ f ∈ g.filter, ¬f.RepeatsKey) ∧
      ∀ s ∈ r.sorting, ¬s.RepeatsKey := by
  have hfilter : (∀ q ∈ r.filter.bind (·.lower? catalog), q.toJson.keysDistinct) ↔
      ∀ f ∈ r.filter, ¬f.RepeatsKey := by
    cases r.filter with
    | none => simp
    | some f => simpa using f.keysDistinct_lower?_iff catalog
  rw [SearchBody.keysDistinct_toJson_iff, ← hfilter, ← r.keysDistinct_aggregations?_iff catalog,
    ← r.keysDistinct_sortClauses?_iff]
  exact and_iff_right (r.keysDistinct_keywordQuery? options)

/-- A condition on the distance of the field `Distance` makes the body of a request repeat a key,
and so does an order by the distance of the field `Unit`. -/
theorem not_keysDistinct_compile :
    let zero : GeoPoint := ⟨.finite (.zero false), .finite (.zero false)⟩
    let filtered : SearchRequest :=
      { filter := some (.geoDistance "Distance" zero (.finite (.zero false))) }
    let sorted : SearchRequest := { sorting := [{ fieldName := "Unit", location := some zero }] }
    (filtered.compile "products" .empty {}).toJson.keysDistinct = false ∧
      (sorted.compile "products" .empty {}).toJson.keysDistinct = false := by
  decide +kernel

end SearchRequest

end SearchBridge
