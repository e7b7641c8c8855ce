import SearchBridge.Proofs.Body.Spelling
import SearchBridge.Proofs.Table

/-!
# Theory of index mappings

A mapping declares properties, and each property may have properties of its own. Walking it in
pre-order meets every property with the names on the way to it. A property that has a type or
properties declares the field of its dotted path, and the catalog of the mapping knows exactly the
fields that are declared on the walk: of several declarations of one name in the index the last one
counts. Names are put together before they are lowered, since the form of a sigma depends on what
stands before it.

The engine wraps a mapping under the name of its index. The shape of a document is told by its keys,
so that an index called like one of these keys is taken for something else.

## Main definitions

* `Catalog.walk` : the properties of a mapping in pre-order.
* `Catalog.contributions` : the declarations met on the walk.
* `Catalog.underIndex`, `Catalog.wrapped`, `Catalog.bare` : the shapes of a mapping.

## Main results

* `Catalog.declaration?_eq_some_iff` : what a property declares.
* `Catalog.flatten_eq_filterMap_walk` : flattening declares what is met on the walk.
* `Catalog.ofMapping_eq_contributions` : the catalog of a mapping.
* `Catalog.ofMapping_shapes` : the shape of a mapping does not matter.
-/

namespace SearchBridge

namespace Catalog

/-! ### Catalogs of declarations -/

section Declarations

variable (declarations : List (String × FieldDescriptor))

theorem fields_ofDeclarations : (ofDeclarations declarations).fields =
    Table.ofEntries (renameDeclarations SearchBridge.fieldName declarations) := by
  rw [ofDeclarations, renameDeclarations, Table.ofEntries, List.foldl_map]
  exact (List.foldl_hom Catalog.fields fun _ _ => rfl).symm

/-- What is known about a field was declared last of all declarations of its name in the index. -/
theorem lookup_ofDeclarations (name : String) : (ofDeclarations declarations).lookup name =
    (declarations.filter fun d =>
      SearchBridge.fieldName d.1 = SearchBridge.fieldName name).getLast?.map Prod.snd := by
  rw [lookup, fields_ofDeclarations, Table.get?_ofEntries, renameDeclarations, List.filter_map,
    List.getLast?_map, Option.map_map]
  rfl

/-- There is one field for each name in the index. -/
theorem size_ofDeclarations : (ofDeclarations declarations).size =
    (declarations.map fun d => SearchBridge.fieldName d.1).dedup.length := by
  rw [size, fields_ofDeclarations, Table.length_ofEntries, Table.keys, renameDeclarations,
    List.map_map]
  rfl

end Declarations

/-! ### Declarations of properties -/

section Declaration

variable {property : Json} {key : String}

theorem bind_text?_eq_some_iff {text : String} :
    (property.get? key).bind Json.text? = some text ↔ property.get? key = some (.string text) := by
  rw [Option.bind_eq_some_iff]
  constructor
  · rintro ⟨v, hv, htext⟩
    cases v with
    | string s => rw [hv, Option.some.inj htext]
    | _ => cases htext
  · exact fun h => ⟨_, h, rfl⟩

theorem bind_entries?_eq_some_iff {entries : List (String × Json)} :
    (property.get? key).bind Json.entries? = some entries ↔
      property.get? key = some (.object entries) := by
  rw [Option.bind_eq_some_iff]
  constructor
  · rintro ⟨v, hv, hentries⟩
    cases v with
    | object es => rw [hv, Option.some.inj hentries]
    | _ => cases hentries
  · exact fun h => ⟨_, h, rfl⟩

/-- Something is found in the object under a key exactly if that object has such an entry. -/
theorem isSome_bind_get?_iff {inner : String} : ((property.get? key).bind (·.get? inner)).isSome ↔
    ∃ entries, property.get? key = some (.object entries) ∧ inner ∈ Table.keys entries := by
  have hget (v : Json) : v.get? inner = v.entries?.bind (Table.get? · inner) := rfl
  simp only [hget, ← Option.bind_assoc, Option.isSome_bind, Option.any_eq_true,
    bind_entries?_eq_some_iff]
  refine exists_congr fun entries => and_congr_right fun _ => ?_
  rw [← Option.ne_none_iff_isSome, ne_eq, Table.get?_eq_none_iff, not_not]

/-- **What a property declares.** It declares a field exactly if it has a text as its type or an
object of properties. The field's type is the one of that name, or an object without one. It has a
sibling with unchanged values exactly if it is a keyword and its own fields are an object with an
entry for the sibling. -/
theorem declaration?_eq_some_iff {d : FieldDescriptor} : declaration? property = some d ↔
    ((∃ name, property.get? "type" = some (.string name) ∧ d.type = .ofName name) ∨
      (∀ name, property.get? "type" ≠ some (.string name)) ∧
        (∃ entries, property.get? "properties" = some (.object entries)) ∧ d.type = .object) ∧
    (d.hasRawSibling = true ↔ d.type = .keyword ∧ ∃ entries,
      property.get? "fields" = some (.object entries) ∧ rawSubfield ∈ Table.keys entries) := by
  obtain ⟨type, hasRaw⟩ := d
  have hraw (t : FieldType) : (FieldDescriptor.mk t (t == .keyword &&
      ((property.get? "fields").bind (·.get? rawSubfield)).isSome) = ⟨type, hasRaw⟩) ↔
      type = t ∧ (hasRaw = true ↔ type = .keyword ∧ ∃ entries,
        property.get? "fields" = some (.object entries) ∧ rawSubfield ∈ Table.keys entries) := by
    rw [FieldDescriptor.mk.injEq, eq_comm, ← isSome_bind_get?_iff]
    refine and_congr_right fun htype => ?_
    rw [htype, Bool.eq_iff_iff, Bool.and_eq_true, beq_iff_eq]
    exact Iff.comm
  rw [declaration?]
  cases htype : (property.get? "type").bind Json.text? with
  | some name =>
    rw [bind_text?_eq_some_iff] at htype
    simp [htype, hraw]
  | none =>
    have hnone : ∀ name, property.get? "type" ≠ some (.string name) := by
      intro name h
      rw [bind_text?_eq_some_iff.mpr h] at htype
      cases htype
    cases hown : (property.get? "properties").bind Json.entries? with
    | some entries =>
      rw [bind_entries?_eq_some_iff] at hown
      simp [hnone, hown, hraw]
    | none =>
      have hownNone : ∀ entries, property.get? "properties" ≠ some (.object entries) := by
        intro entries h
        rw [bind_entries?_eq_some_iff.mpr h] at hown
        cases hown
      simp [hnone, hownNone]

end Declaration

/-! ### Walking a mapping -/

/-- The properties that a property has of its own, none unless they are an object. -/
def ownProperties (property : Json) : List (String × Json) :=
  ((property.get? "properties").bind Json.entries?).getD []

/-- What is found under a key is smaller than the table. -/
theorem sizeOf_lt_of_get? {entries : List (String × Json)} {key : String} {v : Json}
    (h : Table.get? entries key = some v) : sizeOf v < sizeOf entries := by
  induction entries with
  | nil => cases h
  | cons e entries ih =>
    obtain ⟨key', v'⟩ := e
    by_cases heq : key = key'
    · subst heq
      rw [Table.get?_cons_self] at h
      obtain rfl := Option.some.inj h
      simp only [List.cons.sizeOf_spec, Prod.mk.sizeOf_spec]
      omega
    · rw [Table.get?_cons_of_ne heq] at h
      have hlt := ih h
      simp only [List.cons.sizeOf_spec]
      omega

theorem sizeOf_ownProperties_le (property : Json) :
    sizeOf (ownProperties property) ≤ sizeOf property := by
  rw [ownProperties]
  cases hown : (property.get? "properties").bind Json.entries? with
  | none => cases property <;> simp
  | some own =>
    rw [bind_entries?_eq_some_iff] at hown
    obtain ⟨entries, hentries, hget⟩ := Option.bind_eq_some_iff.mp hown
    cases property with
    | object es =>
      obtain rfl := Option.some.inj hentries
      have hlt := sizeOf_lt_of_get? hget
      simp only [Json.object.sizeOf_spec] at hlt ⊢
      simp only [Option.getD_some]
      omega
    | _ => cases hentries

/-- The properties of a mapping in pre-order, each one before its own properties, with the names on
the way to them. -/
def walk : List (String × Json) → List (List String × Json)
  | [] => []
  | (name, property) :: rest =>
    ([name], property) ::
      (walk (ownProperties property)).map (fun p => (name :: p.1, p.2)) ++ walk rest
termination_by entries => sizeOf entries
decreasing_by
  · have hle := sizeOf_ownProperties_le property
    simp only [List.cons.sizeOf_spec, Prod.mk.sizeOf_spec]
    omega
  · simp only [List.cons.sizeOf_spec]
    omega

/-- The declaration of a property on a walk below a path, under its dotted path. -/
def contribution? (parent : Option String) (p : List String × Json) :
    Option (String × FieldDescriptor) :=
  (declaration? p.2).map fun d => (".".intercalate (parent.toList ++ p.1), d)

/-- The declarations met on the walk through a mapping, under dotted paths. -/
def contributions (properties : List (String × Json)) : List (String × FieldDescriptor) :=
  (walk properties).filterMap (contribution? none)

theorem flattenEntry_eq (parent : String) (entries : List (String × Json)) :
    flattenEntry parent entries =
      flatten (some parent) (((Table.get? entries "properties").bind Json.entries?).getD []) := by
  induction entries with
  | nil => rfl
  | cons e rest ih =>
    obtain ⟨key, v⟩ := e
    rw [flattenEntry]
    split
    · next heq =>
      rw [heq, Table.get?_cons_self, Option.bind_some]
      cases v <;> rfl
    · next hne => rw [Table.get?_cons_of_ne (Ne.symm hne), ih]

/-- The declarations below a property are those of its own properties. -/
theorem flattenBelow_eq (parent : String) (property : Json) :
    flattenBelow parent property = flatten (some parent) (ownProperties property) := by
  cases property with
  | object entries => exact flattenEntry_eq parent entries
  | _ => rfl

/-- A property that declares nothing has no properties. -/
theorem ownProperties_of_declaration?_eq_none {property : Json} (h : declaration? property = none) :
    ownProperties property = [] := by
  rw [ownProperties]
  cases hown : (property.get? "properties").bind Json.entries? with
  | none => rfl
  | some entries =>
    rw [declaration?, hown] at h
    cases htype : (property.get? "type").bind Json.text? <;> simp [htype] at h

/-- A name further down the way may be joined to the path first. -/
theorem contribution?_cons (parent : Option String) (name : String) (p : List String × Json) :
    contribution? parent (name :: p.1, p.2) = contribution? (some (path parent name)) p := by
  cases parent <;> rfl

theorem contribution?_singleton (parent : Option String) (name : String) (property : Json) :
    contribution? parent ([name], property) =
      (declaration? property).map fun d => (path parent name, d) := by
  cases parent <;> rfl

/-- Flattening declares what is met on the walk. -/
theorem flatten_eq_filterMap_walk (parent : Option String) (properties : List (String × Json)) :
    flatten parent properties = (walk properties).filterMap (contribution? parent) := by
  fun_induction walk properties generalizing parent with
  | case1 => rfl
  | case2 name property rest ihown ihrest =>
    have hcons : contribution? parent ∘ (fun p => (name :: p.1, p.2)) =
        contribution? (some (path parent name)) := funext (contribution?_cons parent name)
    rw [flatten, List.cons_append, List.filterMap_cons, List.filterMap_append, List.filterMap_map,
      hcons, ← ihown, ← ihrest, contribution?_singleton]
    cases hd : declaration? property with
    | none =>
      rw [ownProperties_of_declaration?_eq_none hd]
      rfl
    | some d =>
      rw [Option.map_some, flattenBelow_eq]
      rfl

/-! ### Catalogs of mappings -/

/-- **The catalog of a mapping.** A mapping with an object of properties has a catalog. It knows of
a field what the last declaration of the field's name in the index says that is met on the walk
through the properties, and it has one field for each name in the index that is declared there. A
property declares a field exactly if it has a text as its type or an object of properties. It
declares the type of that name, or an object without one, and a sibling with unchanged values
exactly if it is a keyword and its own fields are an object with an entry for the sibling. -/
theorem ofMapping_eq_contributions (properties : List (String × Json)) :
    (∃ catalog, ofMapping (.object [("properties", .object properties)]) = .ok catalog ∧
      (∀ name, catalog.lookup name = ((contributions properties).filter fun d =>
        SearchBridge.fieldName d.1 = SearchBridge.fieldName name).getLast?.map Prod.snd) ∧
      catalog.size =
        ((contributions properties).map fun d => SearchBridge.fieldName d.1).dedup.length) ∧
    ∀ (property : Json) (d : FieldDescriptor), declaration? property = some d ↔
      ((∃ name, property.get? "type" = some (.string name) ∧ d.type = .ofName name) ∨
        (∀ name, property.get? "type" ≠ some (.string name)) ∧
          (∃ entries, property.get? "properties" = some (.object entries)) ∧ d.type = .object) ∧
      (d.hasRawSibling = true ↔ d.type = .keyword ∧ ∃ entries,
        property.get? "fields" = some (.object entries) ∧ rawSubfield ∈ Table.keys entries) := by
  refine ⟨⟨ofDeclarations (contributions properties), ?_, lookup_ofDeclarations _,
    size_ofDeclarations _⟩, fun _ _ => declaration?_eq_some_iff⟩
  rw [contributions, ← flatten_eq_filterMap_walk]
  rfl

/-! ### Shapes of a mapping -/

/-- The bare object of properties. -/
def bare (properties : List (String × Json)) : Json :=
  .object [("properties", .object properties)]

/-- A mapping under the key that marks one. -/
def wrapped (mapping : Json) : Json := .object [("mappings", mapping)]

/-- What the engine tells about an index, under the name of the index. -/
def underIndex (index : String) (description : Json) : Json := .object [(index, description)]

theorem ofMapping_bare (properties : List (String × Json)) :
    ofMapping (bare properties) = .ok (ofDeclarations (flatten none properties)) :=
  rfl

/-- A wrapper is read as the mapping in it. -/
theorem ofMapping_wrapped_bare (properties : List (String × Json)) :
    ofMapping (wrapped (bare properties)) = ofMapping (bare properties) :=
  rfl

/-- The name of an index does not count, unless it is one of the keys by which shapes are told. -/
theorem ofMapping_underIndex {index : String} (hproperties : index ≠ "properties")
    (hmappings : index ≠ "mappings") (description : Json) :
    ofMapping (underIndex index description) = ofMapping description := by
  have hnone {key : String} (h : index ≠ key) :
      Table.get? [(index, description)] key = none := by
    rw [Table.get?_cons_of_ne h.symm, Table.get?_nil]
  have hsole : properties? (underIndex index description) = properties? description := by
    rw [underIndex, properties?, hnone hproperties, hnone hmappings]
    rfl
  rw [ofMapping, ofMapping, hsole]

/-- An index without properties declares nothing, whatever it is called. -/
theorem ofMapping_underIndex_wrapped_empty (index : String) :
    ofMapping (underIndex index (wrapped (.object []))) = .ok empty := by
  by_cases hproperties : index = "properties"
  · rw [hproperties]
    rfl
  · by_cases hmappings : index = "mappings"
    · rw [hmappings]
      rfl
    · rw [ofMapping_underIndex hproperties hmappings]
      rfl

/-- **The shape of a mapping does not matter.** The bare object of properties, the wrapper of it and
the wrapper under the name of an index have one catalog, if the index is not called like a key by
which these shapes are told. An index without properties has the empty catalog. -/
theorem ofMapping_shapes (properties : List (String × Json)) :
    (∃ catalog, ofMapping (bare properties) = .ok catalog ∧
      ofMapping (wrapped (bare properties)) = .ok catalog ∧
      ∀ index, index ≠ "properties" → index ≠ "mappings" →
        ofMapping (underIndex index (wrapped (bare properties))) = .ok catalog) ∧
    ∀ index, ofMapping (underIndex index (wrapped (.object []))) = .ok empty := by
  refine ⟨⟨_, ofMapping_bare properties, ofMapping_wrapped_bare properties, ?_⟩,
    ofMapping_underIndex_wrapped_empty⟩
  intro index hproperties hmappings
  rw [ofMapping_underIndex hproperties hmappings, ofMapping_wrapped_bare, ofMapping_bare]

/-- An index whose properties are called like the keys of a mapping. -/
theorem ofMapping_shapes_of_key_names :
    let keyword : Json := .object [("type", .string "keyword")]
    let properties : List (String × Json) :=
      [("mappings", .object [("properties", .object [("properties", keyword)])])]
    "products" ≠ "properties" ∧ "products" ≠ "mappings" ∧ ∃ catalog,
      ofMapping (bare properties) = .ok catalog ∧
        ofMapping (underIndex "products" (wrapped (bare properties))) = .ok catalog := by
  intro keyword properties
  have hproperties : "products" ≠ "properties" := by decide
  have hmappings : "products" ≠ "mappings" := by decide
  obtain ⟨⟨catalog, hbare, -, hindex⟩, -⟩ := ofMapping_shapes properties
  exact ⟨hproperties, hmappings, catalog, hbare, hindex "products" hproperties hmappings⟩

/-- The name of an index does count where it is a key of another shape: an index called `mappings`
is taken for a wrapper without properties, and one called `properties` for the bare object of a
property called `mappings`. -/
theorem not_ofMapping_underIndex_eq :
    let brand : List (String × Json) := [("brand", .object [("type", .string "keyword")])]
    ofMapping (underIndex "mappings" (wrapped (bare brand))) ≠ ofMapping (bare brand) ∧
      ofMapping (underIndex "properties" (wrapped (bare brand))) ≠ ofMapping (bare brand) := by
  decide +kernel

end Catalog

end SearchBridge
