import SearchBridge.Json.Record

/-!
# Intervals of field values

An interval is given by its two end points as texts and whether they belong to it. A missing or
empty end point leaves its side open.
-/

namespace SearchBridge

/-- An interval of field values; the end points are texts. -/
structure Interval where
  lower : Option String := none
  upper : Option String := none
  includeLower : Bool := false
  includeUpper : Bool := false
  deriving DecidableEq

namespace Interval

/-- The end point a text stands for: an empty one is none. -/
def bound? (endPoint : Option String) : Option String := endPoint.filter fun s => !s.isEmpty

/-- The lower end point, none if that side is open. -/
def lowerBound? (i : Interval) : Option String := bound? i.lower

/-- The upper end point, none if that side is open. -/
def upperBound? (i : Interval) : Option String := bound? i.upper

/-- The JSON entries of an interval. -/
def entries (i : Interval) : List (String × Json) := [
  ("lower", .orNull .string i.lower),
  ("upper", .orNull .string i.upper),
  ("includeLower", .bool i.includeLower),
  ("includeUpper", .bool i.includeUpper)]

/-- The JSON of an interval. -/
def toJson (i : Interval) : Json := .object i.entries

open Json.Raw in
/-- The fields of an interval in JSON, for a record that holds one. -/
def fieldsIn {σ : Type} (lift : (Interval → Interval) → σ → σ) : List (Json.RecordField σ) := [
  .optional "lower" (readOption readText) fun x => lift fun i => { i with lower := x },
  .optional "upper" (readOption readText) fun x => lift fun i => { i with upper := x },
  .optional "includeLower" readBool fun x => lift fun i => { i with includeLower := x },
  .optional "includeUpper" readBool fun x => lift fun i => { i with includeUpper := x }]

/-- Reads an interval from JSON. -/
def read : Json.Raw → Except Json.Error Interval :=
  Json.Raw.readRecord (fieldsIn id) {}

end Interval

end SearchBridge
