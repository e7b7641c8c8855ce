import Mathlib.Data.Nat.Basic
import SearchBridge.Proofs.Body.Spelling
import SearchBridge.Proofs.Facet.Keys
import SearchBridge.Proofs.Filter.Meaning

/-!
# The documents that facets count

An aggregation that is sent for a facet counts the documents that a filter would select. For an
interval this is the filter that asks for the interval and for the facet's own filter, where the
sibling with unchanged values stands in for the field if the catalog declares one. The terms of a
facet are counted among the documents of its own filter if that filter puts a condition on them.

The two are lowered apart from each other: a facet on intervals lists its conditions in one boolean
query, whatever they are, while a filter joins its operands and rewrites as it does so. On plain
queries both mean the same.

## Main definitions

* `sentUnder?` : the aggregation that is sent under a key.
* `Facet.intervalFilter` : the filter for one interval of a facet.
* `Facet.rawIntervalQuery` : its query with the unchanged values of the field.

## Main results

* `Facet.sentUnder?_of_new` : the aggregation under a key that no earlier facet asks for.
* `Facet.sent_aggregations_select` : the documents that the aggregations of a facet count.
-/

namespace SearchBridge

/-! ### Aggregations under new keys -/

/-- The aggregation that is sent under a key for a list of facets. -/
def sentUnder? (catalog : Catalog) (facets : List Facet) (key : String) : Option Aggregation :=
  Table.get? ((aggregations? catalog facets).getD []) key

/-- Under each key the first aggregation is sent that is asked for. -/
theorem sentUnder?_eq (catalog : Catalog) (facets : List Facet) (key : String) :
    sentUnder? catalog facets key = Table.get? (facets.flatMap (Facet.entries catalog)) key := by
  rw [sentUnder?, getD_aggregations?, aggregationTable, Table.get?_foldl_putNew]

/-- An aggregation of a facet is sent if no earlier facet looks up its key and the facet itself does
not look it up twice. -/
theorem Facet.sentUnder?_of_new {catalog : Catalog} {before after : List Facet} {f : Facet}
    (hnew : ∀ key ∈ f.lookupKeys, key ∉ before.flatMap lookupKeys) (hnodup : f.lookupKeys.Nodup)
    {key : String} {a : Aggregation} (ha : (key, a) ∈ f.entries catalog) :
    sentUnder? catalog (before ++ f :: after) key = some a := by
  have hemitted : key ∈ f.emittedKeys catalog := by
    rw [← keys_entries]
    exact Table.mem_keys_of_mem ha
  have hearlier : Table.get? (before.flatMap (Facet.entries catalog)) key = none := by
    rw [Table.get?_eq_none_iff, keys_flatMap_entries, List.mem_flatMap]
    rintro ⟨g, hg, hkey⟩
    exact hnew key ((f.emittedKeys_sublist catalog).subset hemitted)
      (List.mem_flatMap.mpr ⟨g, hg, (g.emittedKeys_sublist catalog).subset hkey⟩)
  have hown : Table.get? (f.entries catalog) key = some a := by
    refine (Table.get?_eq_some_iff ?_).mpr ha
    rw [keys_entries]
    exact hnodup.sublist (f.emittedKeys_sublist catalog)
  rw [sentUnder?_eq, List.flatMap_append, List.flatMap_cons, Table.get?_append, hearlier,
    Option.none_or, Table.get?_append, hown, Option.some_or]

/-! ### Lists of conditions -/

variable {α : Type*} [Preorder α] [DecidableLE α] [DecidableLT α] (e : Evidence α)

/-- Listing plain queries that all have to hold and joining them mean the same. -/
theorem Query.holds_conjunction_eq_foldl_and {qs : List Query} (h : ∀ q ∈ qs, q.IsPlain) :
    (Query.bool qs [] [] none).holds e = (qs.foldl Query.and .matchAll).holds e := by
  rw [holds_conjunction, holds_foldl_and e h, holds_matchAll,
    Bool.true_and]

namespace Facet

variable (catalog : Catalog) (f : Facet)

/-- The filter for one interval of a facet: the field's value lies in the interval, and the facet's
own filter holds. -/
def intervalFilter (i : Interval) : Filter := .and (.range f.fieldName [i] :: f.filter.toList)

/-- The query for one interval of a facet on the unchanged values of the field: the range on the
sibling is joined with the facet's own filter as the operands of a filter are. -/
def rawIntervalQuery (i : Interval) : Query :=
  (Filter.intervalQuery (rawFieldName (SearchBridge.fieldName f.fieldName)) i ::
    Filter.lowerList catalog f.filter.toList).foldl Query.and .matchAll

/-- The queries that a facet's own filter is lowered to. -/
theorem lowerList_filter :
    Filter.lowerList catalog f.filter.toList = (f.scope? catalog).toList := by
  rw [scope?]
  cases f.filter with
  | none => rfl
  | some g => exact List.append_nil _

/-- The filter for an interval is lowered to a range joined with the facet's own filter. -/
theorem lower?_intervalFilter (i : Interval) : (f.intervalFilter i).lower? catalog =
    some ((Filter.intervalQuery (SearchBridge.fieldName f.fieldName) i ::
      Filter.lowerList catalog f.filter.toList).foldl Query.and .matchAll) :=
  rfl

/-- The list of conditions that an interval of a facet is counted by means that they are joined. -/
theorem holds_intervalConditions (target : String) (i : Interval) :
    (Query.bool (Filter.intervalQuery target i :: (f.scope? catalog).toList) [] [] none).holds e =
      ((Filter.intervalQuery target i ::
        Filter.lowerList catalog f.filter.toList).foldl Query.and .matchAll).holds e := by
  rw [← lowerList_filter]
  refine Query.holds_conjunction_eq_foldl_and e (List.forall_mem_cons.mpr ⟨trivial, ?_⟩)
  exact Filter.joinClosed_isPlain.lowerList catalog f.filter.toList

theorem targetField_of_rawSibling (h : catalog.hasRawSibling f.fieldName = true) :
    f.targetField catalog = rawFieldName (SearchBridge.fieldName f.fieldName) := by
  rw [targetField, Catalog.hasRawSibling_fieldName, if_pos h]

theorem targetField_of_no_rawSibling (h : catalog.hasRawSibling f.fieldName = false) :
    f.targetField catalog = SearchBridge.fieldName f.fieldName := by
  rw [targetField, Catalog.hasRawSibling_fieldName, if_neg (Bool.not_eq_true _ ▸ h)]

/-- A facet whose field has a name counts the values of a field that has a name. -/
theorem targetField_ne_empty (h : f.fieldName ≠ "") : f.targetField catalog ≠ "" := by
  rw [targetField]
  split
  · simp [rawFieldName, rawSubfield]
  · exact mt Text.lower_eq_empty_iff.mp h

/-- The aggregation of one interval of a facet. -/
theorem mem_entries_of_interval {values : List NamedInterval} (h : f.counted = .intervals values)
    {v : NamedInterval} (hv : v ∈ values) :
    (intervalKey f.effectiveId v.id, Aggregation.filter
      (.bool (Filter.intervalQuery (f.targetField catalog) v.interval :: (f.scope? catalog).toList)
        [] [] none) []) ∈ f.entries catalog := by
  rw [entries, h]
  exact List.mem_map_of_mem hv

/-- The aggregation on the terms of a field that has a name. -/
theorem termsAggregation?_targetField (h : f.fieldName ≠ "") (size : Option Int32)
    (values : Option (List String)) :
    termsAggregation? (f.targetField catalog) size values = some (.terms (f.targetField catalog)
      (some (termCount size)) (values.filter fun vs => !vs.isEmpty)) := by
  rw [termsAggregation?, if_neg (mt String.isEmpty_iff.mp (f.targetField_ne_empty catalog h))]

/-- A facet on the terms of a field that has a name asks for one aggregation: for the terms
themselves, or for the query of the facet's own filter with the terms under the same key. -/
theorem entries_of_terms {size : Option Int32} {values : Option (List String)}
    (h : f.counted = .terms size values) {terms : Aggregation}
    (hterms : termsAggregation? (f.targetField catalog) size values = some terms) :
    f.entries catalog = [(f.effectiveId, match f.scope? catalog with
      | none => terms
      | some query => .filter query [(f.effectiveId, terms)])] := by
  rw [entries, h]
  simp only [hterms]
  cases f.scope? catalog <;> rfl

/-- The query of a facet's own filter, if there is one, has the meaning of that filter. -/
theorem holds_of_scope? {q : Query} (h : f.scope? catalog = some q) :
    ∃ g ∈ f.filter, g.lower? catalog = some q ∧ q.holds e = g.meaning catalog e := by
  obtain ⟨g, hg, hq⟩ := Option.bind_eq_some_iff.mp h
  refine ⟨g, hg, hq, ?_⟩
  have hmeaning := g.map_holds_lower? e catalog
  rw [hq, Option.map_some] at hmeaning
  split at hmeaning
  · cases hmeaning
  · exact Option.some.inj hmeaning

theorem scope?_isSome_iff :
    (f.scope? catalog).isSome ↔ ∃ g ∈ f.filter, (g.lower? catalog).isSome := by
  rw [scope?]
  cases f.filter with
  | none => simp
  | some g => simp

/-- **Facets count what filters select.** Take a facet whose keys no earlier facet looks up and
which does not look up a key twice. Under the key of each of its intervals an aggregation is sent
for the documents of a query. On every document this query is true exactly if the lowered filter for
the interval is, or, where the field has a sibling with unchanged values, exactly if the same filter
with the range on the sibling is. If the facet is on the terms of a field that has a name, then its
aggregation is the one for the terms or one for a query with the former under the same key: the
latter exactly if something is lowered from the facet's own filter, and then the query is true
exactly of the documents of which this filter is. -/
theorem sent_aggregations_select {before after : List Facet}
    (hnew : ∀ key ∈ f.lookupKeys, key ∉ before.flatMap lookupKeys) (hnodup : f.lookupKeys.Nodup) :
    (∀ values, f.counted = .intervals values → ∀ v ∈ values, ∃ q,
      sentUnder? catalog (before ++ f :: after) (intervalKey f.effectiveId v.id) =
        some (.filter q []) ∧
      (catalog.hasRawSibling f.fieldName = false →
        ∃ l, (f.intervalFilter v.interval).lower? catalog = some l ∧ q.holds e = l.holds e) ∧
      (catalog.hasRawSibling f.fieldName = true →
        q.holds e = (f.rawIntervalQuery catalog v.interval).holds e)) ∧
    (∀ size values, f.counted = .terms size values → f.fieldName ≠ "" → ∃ field count allowed,
      ((∃ g ∈ f.filter, (g.lower? catalog).isSome) ↔
        ∃ q nested, sentUnder? catalog (before ++ f :: after) f.effectiveId =
          some (.filter q nested)) ∧
      (∀ q nested, sentUnder? catalog (before ++ f :: after) f.effectiveId =
          some (.filter q nested) →
        nested = [(f.effectiveId, .terms field count allowed)] ∧
          ∃ g ∈ f.filter, q.holds e = g.meaning catalog e) ∧
      ((∀ g ∈ f.filter, g.lower? catalog = none) →
        sentUnder? catalog (before ++ f :: after) f.effectiveId =
          some (.terms field count allowed))) := by
  have hsent {key : String} {a : Aggregation} (ha : (key, a) ∈ f.entries catalog) :
      sentUnder? catalog (before ++ f :: after) key = some a := sentUnder?_of_new hnew hnodup ha
  constructor
  · intro values hcounted v hv
    have hown := f.mem_entries_of_interval catalog hcounted hv
    refine ⟨_, hsent hown, fun hraw => ?_, fun hraw => ?_⟩
    · rw [f.targetField_of_no_rawSibling catalog hraw]
      exact ⟨_, f.lower?_intervalFilter catalog v.interval,
        f.holds_intervalConditions e catalog _ v.interval⟩
    · rw [f.targetField_of_rawSibling catalog hraw]
      exact f.holds_intervalConditions e catalog _ v.interval
  · intro size values hcounted hname
    have hterms := f.termsAggregation?_targetField catalog hname size values
    have hown := hsent (f.entries_of_terms catalog hcounted hterms ▸ List.mem_singleton_self _)
    refine ⟨f.targetField catalog, some (termCount size), values.filter fun vs => !vs.isEmpty, ?_⟩
    rw [hown, ← scope?_isSome_iff]
    cases hscope : f.scope? catalog with
    | none => simp
    | some q =>
      obtain ⟨g, hg, hlower, hholds⟩ := f.holds_of_scope? e catalog hscope
      refine ⟨iff_of_true rfl ⟨_, _, rfl⟩, ?_, fun h => ?_⟩
      · rintro _ _ ⟨⟩
        exact ⟨rfl, g, hg, hholds⟩
      · rw [h g hg] at hlower
        cases hlower

/-- A facet on intervals comes after one on terms of the same name. Its own filter is lowered to the
query of all documents, which drops out of the lowered filter but not out of what is sent. -/
theorem sent_aggregations_select_of_same_name :
    let terms : Facet := { id := some "price", fieldName := "Price", counted := .terms none none }
    let price : Facet := {
      id := some "price", fieldName := "Price", filter := some (.and [.not none]),
      counted := .intervals [{ id := "low", interval := { upper := some "100" } },
        { id := "high", interval := { lower := some "100", includeLower := true } }] }
    let e : Evidence Nat := ⟨fun _ => true, fun _ => 3, fun _ bound => bound.length⟩
    (∀ key ∈ price.lookupKeys, key ∉ [terms].flatMap lookupKeys) ∧ price.lookupKeys.Nodup ∧
      ∃ q l, sentUnder? .empty ([terms] ++ price :: []) "price-high" = some (.filter q []) ∧
        (price.intervalFilter { lower := some "100", includeLower := true }).lower? .empty =
          some l ∧ q.holds e = l.holds e := by
  intro terms price e
  have hnew : ∀ key ∈ price.lookupKeys, key ∉ [terms].flatMap lookupKeys := by decide
  have hnodup : price.lookupKeys.Nodup := by decide
  obtain ⟨q, hsent, hplain, -⟩ := (sent_aggregations_select e .empty price hnew hnodup).1 _ rfl _
    (List.mem_cons_of_mem _ List.mem_cons_self)
  obtain ⟨l, hlower, hholds⟩ := hplain rfl
  exact ⟨hnew, hnodup, q, l, hsent, hlower, hholds⟩

end Facet

end SearchBridge
