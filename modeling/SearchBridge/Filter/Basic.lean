import SearchBridge.GeoPoint
import SearchBridge.Interval

/-!
# Filters

A filter is a condition on documents, independent of any engine: leaf conditions on fields,
combined by negation, conjunction and disjunction. A negation may lack its operand.
-/

namespace SearchBridge

/-- A condition on documents. -/
inductive Filter where
  /-- The document's identifier is one of the values. -/
  | ids (values : List String)
  /-- The field holds one of the values. -/
  | term (fieldName : String) (values : List String)
  /-- The field's value lies in one of the intervals. -/
  | range (fieldName : String) (intervals : List Interval)
  /-- The field's point is at most `distance` kilometres from the centre. -/
  | geoDistance (fieldName : String) (centre : GeoPoint) (distance : Binary64)
  /-- The field holds a value that matches the pattern. -/
  | wildcard (fieldName pattern : String)
  /-- The operand does not hold. -/
  | not (operand : Option Filter)
  /-- All operands hold. -/
  | and (operands : List Filter)
  /-- One of the operands holds. -/
  | or (operands : List Filter)

namespace Filter

instance : Inhabited Filter := ⟨.not none⟩

mutual

/-- Equality of filters, distances and coordinates being compared as numbers. -/
def same : Filter → Filter → Bool
  | .ids vs, .ids ws => vs == ws
  | .term f vs, .term g ws => f == g && vs == ws
  | .range f is, .range g js => f == g && is == js
  | .geoDistance f p d, .geoDistance g q e => f == g && p.sameNumbers q && d.sameNumber e
  | .wildcard f p, .wildcard g q => f == g && p == q
  | .not none, .not none => true
  | .not (some a), .not (some b) => same a b
  | .and xs, .and ys => sameList xs ys
  | .or xs, .or ys => sameList xs ys
  | _, _ => false

/-- `Filter.same`, filter by filter. -/
def sameList : List Filter → List Filter → Bool
  | [], [] => true
  | a :: as, b :: bs => same a b && sameList as bs
  | _, _ => false

end

end Filter

end SearchBridge
