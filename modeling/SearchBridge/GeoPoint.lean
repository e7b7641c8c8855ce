import SearchBridge.Json.Record
import SearchBridge.Numeric.Literal
import SearchBridge.Text.Basic

/-!
# Points on the earth

A point is a pair of coordinates in degrees. Its text is `latitude,longitude`, in which each half
may be surrounded by blanks when it is read.
-/

namespace SearchBridge

/-- A point given by its coordinates in degrees. -/
structure GeoPoint where
  latitude : Binary64
  longitude : Binary64
  deriving DecidableEq

namespace GeoPoint

/-- Both coordinates are finite numbers. -/
def IsFinite (p : GeoPoint) : Prop :=
  (∃ x, p.latitude = .finite x) ∧ ∃ y, p.longitude = .finite y

/-- Equality of the coordinates as numbers. -/
def sameNumbers (p q : GeoPoint) : Bool :=
  p.latitude.sameNumber q.latitude && p.longitude.sameNumber q.longitude

/-- The text of a point. -/
def display (p : GeoPoint) : String := p.latitude.display ++ "," ++ p.longitude.display

/-- The point that a text gives: two numbers around the first comma. -/
def ofText? (s : String) : Option GeoPoint := do
  let cs := s.toList
  guard (',' ∈ cs)
  let latitude := cs.takeWhile (· ≠ ',')
  let longitude := (cs.dropWhile (· ≠ ',')).drop 1
  return {
    latitude := ← Literal.double? (Text.trim (String.ofList latitude))
    longitude := ← Literal.double? (Text.trim (String.ofList longitude)) }

/-- The diagnostic for a text that gives no point. -/
def invalidText (s : String) : String :=
  "Invalid geo point '" ++ s ++ "': expected \"latitude,longitude\""

/-- The JSON of a point. -/
def toJson (p : GeoPoint) : Json :=
  .object [("latitude", .double p.latitude), ("longitude", .double p.longitude)]

/-- The fields of a point in JSON; both have to be present. -/
def fields : List (Json.RecordField GeoPoint) := [
  .mandatory "latitude" Json.Raw.readDouble fun x p => { p with latitude := x },
  .mandatory "longitude" Json.Raw.readDouble fun x p => { p with longitude := x }]

/-- Reads a point from JSON. -/
def read : Json.Raw → Except Json.Error GeoPoint :=
  Json.Raw.readRecord fields ⟨.nan, .nan⟩

end GeoPoint

end SearchBridge
