import SearchBridge.Filter.Json

/-!
# Facets

A facet is a definition of counts that a search reports besides its documents: either the counts
of the terms of a field, or the counts of documents in named intervals of a field. A filter may
restrict the documents that are counted.

In JSON a facet is an object whose `type` tells what it counts, and it is read as a tagged value.
All of its fields may be left out.
-/

namespace SearchBridge

/-- An interval whose count is reported under a name. -/
structure NamedInterval where
  id : String := ""
  interval : Interval := {}
  deriving DecidableEq

/-- What a facet counts. -/
inductive Facet.Counted where
  /-- The documents for each term, for at most `size` terms, chosen from `values` if given. -/
  | terms (size : Option Int32) (values : Option (List String))
  /-- The documents in each interval. -/
  | intervals (values : List NamedInterval)
  deriving DecidableEq

/-- A definition of counts. -/
structure Facet where
  id : Option String := none
  fieldName : String := ""
  filter : Option Filter := none
  counted : Facet.Counted

/-- The name under which a facet is reported: its own, or else that of its field. -/
def Facet.effectiveId (f : Facet) : String := f.id.getD f.fieldName

/-! ### JSON -/

namespace NamedInterval

/-- The JSON of a named interval. -/
def toJson (v : NamedInterval) : Json := .object (("id", .string v.id) :: v.interval.entries)

/-- The fields of a named interval in JSON. -/
def fields : List (Json.RecordField NamedInterval) :=
  .optional "id" Json.Raw.readText (fun x v => { v with id := x }) ::
    Interval.fieldsIn fun change v => { v with interval := change v.interval }

/-- Reads a named interval from JSON. -/
def read : Json.Raw → Except Json.Error NamedInterval := Json.Raw.readRecord fields {}

end NamedInterval

namespace Facet

open Json Json.Raw

/-- The JSON of a facet. -/
def toJson (f : Facet) : Json :=
  match f.counted with
  | .terms size values =>
    .object [("type", .string "term"), ("id", .orNull .string f.id),
      ("fieldName", .string f.fieldName), ("size", .orNull (fun n => .int n.toInt) size),
      ("values", .orNull .strings values), ("filter", .orNull Filter.toJson f.filter)]
  | .intervals values =>
    .object [("type", .string "range"), ("id", .orNull .string f.id),
      ("fieldName", .string f.fieldName),
      ("values", .array (values.map NamedInterval.toJson)),
      ("filter", .orNull Filter.toJson f.filter)]

/-- The kinds of facets in the order of their positions. -/
def kinds : List String := ["term", "range"]

/-- Reads the filter of a facet, which stands inside a tagged value. -/
def readFilter (r : Raw) : Except Error Filter := do
  match Filter.ofJson? true (← r.whole) with
  | some f => return f
  | none => throw .mismatch

/-- Sets the bound on the number of terms. -/
def setSize (size : Option Int32) (f : Facet) : Facet :=
  match f.counted with
  | .terms _ values => { f with counted := .terms size values }
  | .intervals _ => f

/-- Sets the terms to choose from. -/
def setValues (values : Option (List String)) (f : Facet) : Facet :=
  match f.counted with
  | .terms size _ => { f with counted := .terms size values }
  | .intervals _ => f

/-- The name of a facet in JSON. -/
def idField : RecordField Facet :=
  .optional "id" (readOption readText) fun x f => { f with id := x }

/-- The field name of a facet in JSON. -/
def nameField : RecordField Facet :=
  .optional "fieldName" readText fun x f => { f with fieldName := x }

/-- The filter of a facet in JSON. -/
def filterField : RecordField Facet :=
  .optional "filter" (readOption readFilter) fun x f => { f with filter := x }

/-- The fields of a facet on terms in JSON. -/
def termFields : List (RecordField Facet) := [
  idField, nameField,
  .optional "size" (readOption readInt32) setSize,
  .optional "values" (readOption (readList readText)) setValues,
  filterField]

/-- The fields of a facet on intervals in JSON. -/
def rangeFields : List (RecordField Facet) := [
  idField, nameField,
  .optional "values" (readList NamedInterval.read) fun x f => { f with counted := .intervals x },
  filterField]

/-- Reads a facet of a kind from its fields. -/
def content? (kind : String) (content : Json) : Option Facet :=
  if kind = "term" then content.record? termFields { counted := .terms none none }
  else if kind = "range" then content.record? rangeFields { counted := .intervals [] }
  else none

/-- Reads a facet. -/
def ofJson? : Json → Option Facet
  | .object entries => do
    content? (← kindOf? kinds false entries) (untagged entries)
  | .array (tag :: items) => do
    content? (← tag.kind? kinds false) (.array items)
  | _ => none

/-- Reads a facet; the part that holds it is read as a whole first. -/
def read (r : Raw) : Except Error Facet := do
  match ofJson? (← r.whole) with
  | some f => return f
  | none => throw .mismatch

end Facet

end SearchBridge
