import SearchBridge.Proofs.Facet.Selection

/-!
# The first definition of an aggregation

The aggregations of a list of facets are built up facet by facet and, within a facet on intervals,
interval by interval. An aggregation whose key is present is not added and replaces nothing. So a
longer list of facets leaves the aggregations of a shorter one in front of it as they are, and what
is sent under a key is what the first facet or interval that asks for that key would send alone.

## Main definitions

* `sentAggregations` : the aggregations that are sent for a list of facets.
* `Facet.pieces` : a facet taken apart into its intervals.
* `Facet.AsksForNothing` : a facet for which no aggregation is sent.

## Main results

* `sentAggregations_append` : the aggregations of a list of facets that goes on.
* `sentUnder?_eq_findSome?` : what is sent under a key.
* `aggregations?_eq_none_iff` : when no aggregation is sent.
* `aggregations_of_first_definitions` : the first definition of each key is kept, in order.
-/

namespace SearchBridge

/-- The aggregations that are sent for a list of facets. -/
def sentAggregations (catalog : Catalog) (facets : List Facet) : Table Aggregation :=
  (aggregations? catalog facets).getD []

namespace Facet

/-- The parts of a facet, each of which stands for one key: a facet on terms is one part, and one on
intervals has a part for each interval. -/
def pieces (f : Facet) : List Facet :=
  match f.counted with
  | .terms _ _ => [f]
  | .intervals values => values.map fun v => { f with counted := .intervals [v] }

/-- No aggregation is sent for a facet on the terms of a field without name if nothing is lowered
from its own filter, nor for a facet on intervals that has none. -/
def AsksForNothing (catalog : Catalog) (f : Facet) : Prop :=
  match f.counted with
  | .terms _ _ => f.targetField catalog = "" ∧ ∀ g ∈ f.filter, g.lower? catalog = none
  | .intervals values => values = []

variable (catalog : Catalog)

/-- A facet asks for what its parts ask for, one after the other. -/
theorem flatMap_entries_pieces (f : Facet) :
    f.pieces.flatMap (entries catalog) = f.entries catalog := by
  cases h : f.counted with
  | terms size values =>
    rw [pieces, h]
    exact List.flatMap_singleton ..
  | intervals values =>
    rw [pieces, h, entries, h, List.flatMap_map]
    exact List.map_eq_flatMap.symm

/-- The facets that ask for no key. -/
theorem emittedKeys_eq_nil_iff (f : Facet) :
    f.emittedKeys catalog = [] ↔ f.AsksForNothing catalog := by
  cases h : f.counted with
  | terms size values =>
    have hscope : (f.scope? catalog).isSome = false ↔ ∀ g ∈ f.filter, g.lower? catalog = none := by
      rw [← Bool.not_eq_true, scope?_isSome_iff]
      simp
    rw [AsksForNothing, h, emittedKeys, h, ← hscope]
    simp
  | intervals values =>
    rw [AsksForNothing, h, emittedKeys, h]
    exact List.map_eq_nil_iff

end Facet

variable (catalog : Catalog)

/-- The aggregations of a list of facets that goes on begin with those of its beginning, and go on
with those of the rest whose keys are new. -/
theorem sentAggregations_append (xs ys : List Facet) :
    sentAggregations catalog (xs ++ ys) = sentAggregations catalog xs ++
      (sentAggregations catalog ys).filter fun e => e.1 ∉ (sentAggregations catalog xs).keys := by
  simp only [sentAggregations, getD_aggregations?, aggregationTable, List.flatMap_append]
  exact Table.foldl_putNew_append _ _

/-- What is sent under a key is what the first part of a facet that asks for the key would send
alone. -/
theorem sentUnder?_eq_findSome? (facets : List Facet) (key : String) :
    sentUnder? catalog facets key =
      (facets.flatMap Facet.pieces).findSome? fun p => sentUnder? catalog [p] key := by
  have halone (p : Facet) : sentUnder? catalog [p] key = Table.get? (p.entries catalog) key := by
    rw [sentUnder?_eq, List.flatMap_singleton]
  simp only [halone]
  rw [sentUnder?_eq, ← Table.get?_flatMap, List.flatMap_assoc]
  simp only [Facet.flatMap_entries_pieces]

/-- No aggregation is sent exactly if no facet asks for one. -/
theorem aggregations?_eq_none_iff (facets : List Facet) :
    aggregations? catalog facets = none ↔ ∀ f ∈ facets, f.AsksForNothing catalog := by
  have htable : aggregations? catalog facets = none ↔ aggregationTable catalog facets = [] := by
    rw [aggregations?]
    split
    · next h => simp [h]
    · next h => simpa using h
  rw [htable, aggregationTable, Table.foldl_putNew_eq_nil_iff, ← Table.keys_eq_nil_iff,
    keys_flatMap_entries, List.flatMap_eq_nil_iff]
  exact forall₂_congr fun f _ => f.emittedKeys_eq_nil_iff catalog

/-- **The first definition of a key wins.** However a list of facets goes on, its aggregations stay
in front, entry for entry, and are followed by those of the further facets, in order, whose keys are
new. What is sent under a key is what the first facet on terms or the first interval that asks for
the key would send alone. Keys are distinct, and nothing is sent exactly if no facet asks for
anything. -/
theorem aggregations_of_first_definitions (xs ys : List Facet) :
    (sentAggregations catalog (xs ++ ys) = sentAggregations catalog xs ++
      (sentAggregations catalog ys).filter fun e => e.1 ∉ (sentAggregations catalog xs).keys) ∧
    (∀ key, sentUnder? catalog xs key =
      (xs.flatMap Facet.pieces).findSome? fun p => sentUnder? catalog [p] key) ∧
    (sentAggregations catalog xs).keys.Nodup ∧
    (aggregations? catalog xs = none ↔ ∀ f ∈ xs, f.AsksForNothing catalog) := by
  refine ⟨sentAggregations_append catalog xs ys, sentUnder?_eq_findSome? catalog xs, ?_,
    aggregations?_eq_none_iff catalog xs⟩
  rw [sentAggregations, getD_aggregations?]
  exact Table.nodup_keys_foldl_putNew _

end SearchBridge
