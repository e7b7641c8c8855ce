import SearchBridge.Filter.Lowering
import SearchBridge.Proofs.Query.Clauses

/-!
# The clauses of a filter

Every leaf of a filter stands for clauses of its own: a range for one clause an interval, any other
leaf for one clause. Lowering neither loses nor repeats nor moves a clause.

## Main definitions

* `Filter.clauses` : the clauses that the leaves of a filter stand for, in order.

## Main results

* `Filter.clauses_lower?` : the clauses of the lowered query are those of the filter.
* `Filter.lower?_keeps_clauses` : no clause is lost, repeated or moved.
-/

namespace SearchBridge

namespace Filter

variable (catalog : Catalog)

mutual

/-- The clauses that the leaves of a filter stand for, from left to right. -/
def clauses : Filter → List Clause
  | .ids values => [.ids values]
  | .term name values => [.terms (SearchBridge.fieldName name) (indexTerms catalog name values)]
  | .range name intervals =>
    intervals.map fun i => .range (SearchBridge.fieldName name) i.bounds
  | .geoDistance name centre distance =>
    [.geoDistance (SearchBridge.fieldName name) centre distance]
  | .wildcard name pattern => [.wildcard (SearchBridge.fieldName name) pattern]
  | .not none => []
  | .not (some f) => clauses f
  | .and fs => clausesList fs
  | .or fs => clausesList fs

/-- The clauses that the leaves of the filters in a list stand for. -/
def clausesList : List Filter → List Clause
  | [] => []
  | f :: rest => clauses f ++ clausesList rest

end

/-- The clauses of a disjunction of intervals. -/
private theorem clauses_anyOf?_intervals (field : String) (intervals : List Interval) :
    Query.clausesList (anyOf? (intervals.map (intervalQuery field))).toList =
      intervals.map fun i => .range field i.bounds := by
  have hlist (is : List Interval) : Query.clausesList (is.map (intervalQuery field)) =
      is.map fun i => .range field i.bounds := by
    rw [Query.clausesList_eq_flatMap, List.flatMap_map, List.map_eq_flatMap]
    rfl
  cases intervals with
  | nil => rfl
  | cons i is =>
    rw [List.map_cons, anyOf?, Option.toList_some, Query.clausesList, Query.clausesList,
      List.append_nil, Query.clauses_foldl Query.clauses_or, hlist is, List.map_cons]
    rfl

mutual

/-- The query lowered from a filter has the clauses of the filter; where nothing is lowered the
filter has none. -/
theorem clauses_lower? : (f : Filter) →
    Query.clausesList (f.lower? catalog).toList = f.clauses catalog
  | .ids _ | .term _ _ | .geoDistance _ _ _ | .wildcard _ _ => rfl
  | .range name intervals => clauses_anyOf?_intervals (SearchBridge.fieldName name) intervals
  | .not none => rfl
  | .not (some f) => by
    rw [clauses, ← clauses_lower? f, lower?]
    cases lower? catalog f with
    | none => rfl
    | some q =>
      simp only [Option.map_some, Option.toList_some, Query.clausesList, Query.clauses_negate]
  | .and fs => by
    rw [clauses, ← clauses_lowerList fs, lower?, Option.toList_some, Query.clausesList,
      Query.clauses_foldl Query.clauses_and]
    exact List.append_nil _
  | .or fs => by
    rw [clauses, ← clauses_lowerList fs, lower?, Option.toList_some, Query.clausesList,
      Query.clauses_foldl Query.clauses_or]
    exact List.append_nil _

theorem clauses_lowerList : (fs : List Filter) →
    Query.clausesList (lowerList catalog fs) = clausesList catalog fs
  | [] => rfl
  | f :: fs => by
    rw [lowerList, Query.clausesList_append, clauses_lower? f, clauses_lowerList fs, clausesList]

end

/-- **Lowering keeps the clauses of a filter.** The query lowered from a filter has the clauses of
the filter's leaves, each once and in their order, however operands were merged, dropped and negated
on the way. A filter from which nothing is lowered has no clauses. -/
theorem lower?_keeps_clauses (f : Filter) :
    (∀ q, f.lower? catalog = some q → q.clauses = f.clauses catalog) ∧
      (f.lower? catalog = none → f.clauses catalog = []) := by
  have h := clauses_lower? catalog f
  constructor
  · intro q hq
    rw [hq, Option.toList_some, Query.clausesList, Query.clausesList, List.append_nil] at h
    exact h
  · intro hnone
    rw [hnone] at h
    exact h.symm

/-- A disjunction is merged with the disjunction that a range becomes, a vacuous operand drops out,
and a conjunction of one operand is that operand: the clauses stay as they are. -/
theorem lower?_keeps_clauses_of_merged_operands :
    let f : Filter := .or [.ids ["1"], .not (some (.range "price" [])),
      .and [.range "size" [{ lower := some "2" }, { upper := some "5" }]],
      .not (some (.or [.ids ["3"], .ids ["1"]]))]
    ∃ q, f.lower? .empty = some q ∧ q.clauses = [.ids ["1"], .range "size" { gt := some "2" },
      .range "size" { lt := some "5" }, .ids ["3"], .ids ["1"]] := by
  intro f
  have hclauses : f.clauses .empty = [.ids ["1"], .range "size" { gt := some "2" },
      .range "size" { lt := some "5" }, .ids ["3"], .ids ["1"]] := by decide
  exact ⟨_, rfl, ((lower?_keeps_clauses .empty f).1 _ rfl).trans hclauses⟩

end Filter

end SearchBridge
