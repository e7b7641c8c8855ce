import SearchBridge.Filter.Basic
import SearchBridge.Json.Record

/-!
# Filters in JSON

A filter is written as an object whose `type` names its kind. It is read as a tagged value; a
missing operand of a negation and missing operands of a conjunction or disjunction stand for none.
-/

namespace SearchBridge.Filter

mutual

/-- The JSON of a filter. -/
def toJson : Filter → Json
  | .ids values => .object [("type", .string "ids"), ("values", .strings values)]
  | .term fieldName values =>
    .object [("type", .string "term"), ("fieldName", .string fieldName),
      ("values", .strings values)]
  | .range fieldName intervals =>
    .object [("type", .string "range"), ("fieldName", .string fieldName),
      ("values", .array (intervals.map Interval.toJson))]
  | .geoDistance fieldName centre distance =>
    .object [("type", .string "geoDistance"), ("fieldName", .string fieldName),
      ("location", centre.toJson), ("distance", .double distance)]
  | .wildcard fieldName pattern =>
    .object [("type", .string "wildcard"), ("fieldName", .string fieldName),
      ("value", .string pattern)]
  | .not none => .object [("type", .string "not"), ("childFilter", .null)]
  | .not (some operand) => .object [("type", .string "not"), ("childFilter", toJson operand)]
  | .and operands =>
    .object [("type", .string "and"), ("childFilters", .array (toJsonList operands))]
  | .or operands =>
    .object [("type", .string "or"), ("childFilters", .array (toJsonList operands))]

/-- The JSON of each filter. -/
def toJsonList : List Filter → List Json
  | [] => []
  | f :: rest => toJson f :: toJsonList rest

end

/-- The kinds of filters in the order of their positions. -/
def kinds : List String :=
  ["ids", "term", "range", "geoDistance", "wildcard", "not", "and", "or"]

open Json Json.Raw

/-- The fields of a filter on identifiers. -/
def idsFields : List (RecordField (List String)) := [
  .mandatory "values" (readList readText) fun x _ => x]

/-- The fields of a filter on terms. -/
def termFields : List (RecordField (String × List String)) := [
  .mandatory "fieldName" readText fun x r => (x, r.2),
  .mandatory "values" (readList readText) fun x r => (r.1, x)]

/-- The fields of a filter on intervals. -/
def rangeFields : List (RecordField (String × List Interval)) := [
  .mandatory "fieldName" readText fun x r => (x, r.2),
  .mandatory "values" (readList Interval.read) fun x r => (r.1, x)]

/-- The fields of a filter on distance. -/
def geoFields : List (RecordField (String × GeoPoint × Binary64)) := [
  .mandatory "fieldName" readText fun x r => (x, r.2),
  .mandatory "location" GeoPoint.read fun x r => (r.1, x, r.2.2),
  .mandatory "distance" readDouble fun x r => (r.1, r.2.1, x)]

/-- The fields of a filter on a pattern. -/
def wildcardFields : List (RecordField (String × String)) := [
  .mandatory "fieldName" readText fun x r => (x, r.2),
  .mandatory "value" readText fun x r => (r.1, x)]

/-- Reads a leaf filter of a kind from its fields. -/
def leaf? (kind : String) (content : Json) : Option Filter :=
  if kind = "ids" then (content.record? idsFields []).map .ids
  else if kind = "term" then
    (content.record? termFields ("", [])).map fun r => .term r.1 r.2
  else if kind = "range" then
    (content.record? rangeFields ("", [])).map fun r => .range r.1 r.2
  else if kind = "geoDistance" then
    (content.record? geoFields ("", ⟨.nan, .nan⟩, .nan)).map fun r => .geoDistance r.1 r.2.1 r.2.2
  else if kind = "wildcard" then
    (content.record? wildcardFields ("", "")).map fun r => .wildcard r.1 r.2
  else none

/-- An operand that may be `null`, given what its JSON reads as otherwise. -/
def orAbsent? (v : Json) (operand : Option Filter) : Option (Option Filter) :=
  match v with
  | .null => some none
  | _ => operand.map some

mutual

/-- Reads a filter. -/
def ofJson? (isNested : Bool) : Json → Option Filter
  | .object entries => do
    let kind ← kindOf? kinds isNested entries
    if kind = "not" then (operandIn? entries).map .not
    else if kind = "and" then (operandsIn? entries).map .and
    else if kind = "or" then (operandsIn? entries).map .or
    else leaf? kind (untagged entries)
  | .array (tag :: items) => do
    let kind ← tag.kind? kinds isNested
    if kind = "not" then (onlyOperand? items).map .not
    else if kind = "and" then (onlyOperands? items).map .and
    else if kind = "or" then (onlyOperands? items).map .or
    else leaf? kind (.array items)
  | _ => none
termination_by structural v => v

/-- Reads a list of operands. -/
def operands? : Json → Option (List Filter)
  | .array items => operandItems? items
  | _ => none

/-- Reads each operand. -/
def operandItems? : List Json → Option (List Filter)
  | [] => some []
  | v :: rest => do
    let f ← ofJson? true v
    let fs ← operandItems? rest
    return f :: fs

/-- Reads the operand of a negation among the entries of its object. -/
def operandIn? : List (String × Json) → Option (Option Filter)
  | [] => some none
  | (key, v) :: rest =>
    if key = "childFilter" then
      if "childFilter" ∈ Table.keys rest then none else orAbsent? v (ofJson? true v)
    else operandIn? rest

/-- Reads the operands of a conjunction or disjunction among the entries of its object. -/
def operandsIn? : List (String × Json) → Option (List Filter)
  | [] => some []
  | (key, v) :: rest =>
    if key = "childFilters" then
      if "childFilters" ∈ Table.keys rest then none else operands? v
    else operandsIn? rest

/-- Reads the operand of a negation as the only field. -/
def onlyOperand? : List Json → Option (Option Filter)
  | [] => some none
  | [v] => orAbsent? v (ofJson? true v)
  | _ => none

/-- Reads the operands of a conjunction or disjunction as the only field. -/
def onlyOperands? : List Json → Option (List Filter)
  | [] => some []
  | [v] => operands? v
  | _ => none

end

/-- Reads a filter; the part that holds it is read as a whole first. -/
def read (r : Raw) : Except Error Filter := do
  match ofJson? false (← r.whole) with
  | some f => return f
  | none => throw .mismatch

end SearchBridge.Filter
