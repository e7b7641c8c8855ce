import SearchBridge.Catalog.Basic

/-!
# Catalogs from index mappings

The engine describes an index by a mapping: an object whose `properties` declare the fields, each
of which may have properties of its own. A mapping may be wrapped under `mappings`, and under the
name of its index. Flattening it declares every property under its dotted path, in the order of the
document.
-/

namespace SearchBridge

namespace Catalog

/-- The diagnostic for JSON that is not a mapping. -/
def invalidMapping : String := "expected an object with 'properties'"

/-- The properties of the object under `mappings`; a wrapper without properties declares no
field. -/
def wrappedProperties? (mappings : Json) : Option (List (String × Json)) := do
  let entries ← mappings.entries?
  match Table.get? entries "properties" with
  | some properties => properties.entries?
  | none => some []

mutual

/-- The properties that a mapping declares, none if it is not a mapping. -/
def properties? : Json → Option (List (String × Json))
  | .object entries =>
    match Table.get? entries "properties" with
    | some properties => properties.entries?
    | none =>
      match Table.get? entries "mappings" with
      | some mappings => wrappedProperties? mappings
      | none => soleProperties? entries
  | _ => none

/-- The properties that the only entry declares. -/
def soleProperties? : List (String × Json) → Option (List (String × Json))
  | [(_, v)] => properties? v
  | _ => none

end

/-- The path of a property below another one. -/
def path (parent : Option String) (name : String) : String :=
  match parent with
  | some parent => parent ++ "." ++ name
  | none => name

/-- What a property declares about its own field: its type by name, or an object if it only has
properties. -/
def declaration? (property : Json) : Option FieldDescriptor :=
  let type? := match (property.get? "type").bind Json.text? with
    | some name => some (FieldType.ofName name)
    | none =>
      if ((property.get? "properties").bind Json.entries?).isSome then some .object else none
  type?.map fun type =>
    let raw := ((property.get? "fields").bind (·.get? rawSubfield)).isSome
    { type := type, hasRawSibling := type == .keyword && raw }

mutual

/-- The declarations of properties below a path, each property before its own properties. A
property that declares nothing hides its properties. -/
def flatten (parent : Option String) : List (String × Json) → List (String × FieldDescriptor)
  | [] => []
  | (name, property) :: rest =>
    (match declaration? property with
      | none => []
      | some d => (path parent name, d) :: flattenBelow (path parent name) property) ++
      flatten parent rest

/-- The declarations of the properties of a property. -/
def flattenBelow (parent : String) : Json → List (String × FieldDescriptor)
  | .object entries => flattenEntry parent entries
  | _ => []

/-- The declarations of the properties in the entry for them. -/
def flattenEntry (parent : String) : List (String × Json) → List (String × FieldDescriptor)
  | [] => []
  | (key, v) :: rest =>
    if key = "properties" then flattenIn parent v else flattenEntry parent rest

/-- The declarations in an object of properties. -/
def flattenIn (parent : String) : Json → List (String × FieldDescriptor)
  | .object entries => flatten (some parent) entries
  | _ => []

end

/-- The catalog that declarations build, a later one replacing an earlier one of the same name. -/
def ofDeclarations (declarations : List (String × FieldDescriptor)) : Catalog :=
  declarations.foldl (fun c d => c.insert d.1 d.2) empty

/-- The catalog of a mapping. -/
def ofMapping (mapping : Json) : Except String Catalog :=
  match properties? mapping with
  | some properties => .ok (ofDeclarations (flatten none properties))
  | none => .error invalidMapping

end Catalog

end SearchBridge
