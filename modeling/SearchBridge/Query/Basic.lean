import SearchBridge.GeoPoint
import SearchBridge.Interval

/-!
# Queries of the engine

A query is a boolean combination of clauses. The combinators `and`, `or` and `negate` keep
combinations flat: the neutral query drops out, and operands join the list of an operand that is
itself a pure conjunction or disjunction.
-/

namespace SearchBridge

/-- The bounds of a range clause; a missing one is open. -/
structure RangeBounds where
  gt : Option String := none
  gte : Option String := none
  lt : Option String := none
  lte : Option String := none
  deriving DecidableEq

/-- Term lengths at which automatic fuzziness starts to allow one and two edits. -/
structure AutoFuzziness where
  low : UInt32 := 3
  high : UInt32 := 6
  deriving DecidableEq

/-- How far a term of a document may be from a keyword. -/
inductive Fuzziness where
  | editDistance (distance : UInt32)
  | auto (thresholds : AutoFuzziness)
  deriving DecidableEq

/-- Whether all keywords have to occur or one suffices. -/
inductive Operator where
  | and
  | or
  deriving DecidableEq

/-- A clause that the engine evaluates on a document. -/
inductive Clause where
  | ids (values : List String)
  | terms (field : String) (values : List String)
  | range (field : String) (bounds : RangeBounds)
  | geoDistance (field : String) (centre : GeoPoint) (kilometres : Binary64)
  | wildcard (field pattern : String)
  | multiMatch (text : String) (fields : List String) (analyzer : Option String)
      (operator : Operator) (fuzziness : Option Fuzziness)
  deriving DecidableEq

/-- A query. -/
inductive Query where
  | matchAll
  | matchNone
  | clause (clause : Clause)
  | bool (must should mustNot : List Query) (minimumShouldMatch : Option UInt32)

/-- The bounds of an interval. -/
def RangeBounds.of (lower upper : Option String) (includeLower includeUpper : Bool) :
    RangeBounds where
  gt := if includeLower then none else lower
  gte := if includeLower then lower else none
  lt := if includeUpper then none else upper
  lte := if includeUpper then upper else none

/-- The bounds of an interval, an empty end point being open. -/
def Interval.bounds (i : Interval) : RangeBounds :=
  .of i.lowerBound? i.upperBound? i.includeLower i.includeUpper

/-- Equality of clauses, distances and coordinates being compared as numbers. -/
def Clause.same : Clause → Clause → Bool
  | .geoDistance f p d, .geoDistance g q e => f == g && p.sameNumbers q && d.sameNumber e
  | a, b => a == b

namespace Query

instance : Inhabited Query := ⟨.matchAll⟩

/-- Only a list of queries that have to hold, not an empty one. -/
def isConjunction : Query → Bool
  | .bool must should mustNot _ => !must.isEmpty && should.isEmpty && mustNot.isEmpty
  | _ => false

/-- Only a list of queries of which some have to hold, not an empty one. -/
def isDisjunction : Query → Bool
  | .bool must should mustNot _ => !should.isEmpty && must.isEmpty && mustNot.isEmpty
  | _ => false

/-- The query that holds where both hold. -/
def and (a b : Query) : Query :=
  match a, b with
  | .matchAll, q => q
  | q, .matchAll => q
  | .bool must should mustNot minimum, q =>
    if (Query.bool must should mustNot minimum).isConjunction then
      match q with
      | .bool must' _ _ _ =>
        if q.isConjunction then .bool (must ++ must') should mustNot minimum
        else .bool (must ++ [q]) should mustNot minimum
      | _ => .bool (must ++ [q]) should mustNot minimum
    else .bool [a, b] [] [] none
  | _, _ => .bool [a, b] [] [] none

/-- The query that holds where one of two holds. -/
def or (a b : Query) : Query :=
  match a, b with
  | .matchNone, q => q
  | q, .matchNone => q
  | .bool must should mustNot minimum, q =>
    if (Query.bool must should mustNot minimum).isDisjunction then
      match q with
      | .bool _ should' _ _ =>
        if q.isDisjunction then .bool must (should ++ should') mustNot minimum
        else .bool must (should ++ [q]) mustNot minimum
      | _ => .bool must (should ++ [q]) mustNot minimum
    else .bool [] [a, b] [] (some 1)
  | _, _ => .bool [] [a, b] [] (some 1)

/-- The query that holds where another does not. -/
def negate (q : Query) : Query := .bool [] [] [q] none

mutual

/-- Equality of queries, distances and coordinates being compared as numbers. -/
def same : Query → Query → Bool
  | .matchAll, .matchAll => true
  | .matchNone, .matchNone => true
  | .clause c, .clause d => c.same d
  | .bool must should mustNot minimum, .bool must' should' mustNot' minimum' =>
    sameList must must' && sameList should should' && sameList mustNot mustNot' &&
      minimum == minimum'
  | _, _ => false

/-- `Query.same`, query by query. -/
def sameList : List Query → List Query → Bool
  | [], [] => true
  | a :: as, b :: bs => same a b && sameList as bs
  | _, _ => false

end

end Query

end SearchBridge
