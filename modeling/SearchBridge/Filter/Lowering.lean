import SearchBridge.Catalog.Basic
import SearchBridge.Filter.Basic
import SearchBridge.Query.Basic

/-!
# Lowering filters to queries

A filter becomes a query of the engine, or nothing where it puts no condition on documents: a range
without intervals, and a negation without operand or of an operand that becomes nothing. Operands
that become nothing are left out of conjunctions and disjunctions.
-/

namespace SearchBridge

namespace Filter

/-- The terms of a term filter as the index has them. -/
def indexTerms (catalog : Catalog) (name : String) (values : List String) : List String :=
  if catalog.isBoolean name then values.map booleanTerm else values

/-- The query for one interval of a field. -/
def intervalQuery (field : String) (i : Interval) : Query := .clause (.range field i.bounds)

/-- The disjunction of queries from left to right, nothing if there are none. -/
def anyOf? : List Query → Option Query
  | [] => none
  | q :: rest => some (rest.foldl Query.or q)

mutual

/-- The query that a filter becomes, if any. -/
def lower? (catalog : Catalog) : Filter → Option Query
  | .ids values => some (.clause (.ids values))
  | .term name values =>
    some (.clause (.terms (SearchBridge.fieldName name) (indexTerms catalog name values)))
  | .range name intervals => anyOf? (intervals.map (intervalQuery (SearchBridge.fieldName name)))
  | .geoDistance name centre distance =>
    some (.clause (.geoDistance (SearchBridge.fieldName name) centre distance))
  | .wildcard name pattern => some (.clause (.wildcard (SearchBridge.fieldName name) pattern))
  | .not none => none
  | .not (some operand) => (lower? catalog operand).map Query.negate
  | .and operands => some ((lowerList catalog operands).foldl Query.and .matchAll)
  | .or operands => some ((lowerList catalog operands).foldl Query.or .matchNone)

/-- The queries that filters become, those that become nothing being left out. -/
def lowerList (catalog : Catalog) : List Filter → List Query
  | [] => []
  | f :: rest => (lower? catalog f).toList ++ lowerList catalog rest

end

end Filter

end SearchBridge
