import SearchBridge.Body.Compile
import SearchBridge.Catalog.Mapping
import SearchBridge.Proofs.Text.Lowercase

/-!
# Spelling of field names

A request may spell a field in any way that becomes the field's name in the index, and so may the
declarations of a catalog: the body that a request is compiled to is the same. A field is looked up
in the catalog under its name in the index, which is spelled the same in the index, and a sort
criterion is on the score if its field is called `score` there, though only the ASCII letters of its
name are lowered to find out.

A facet without a name of its own is reported under its field as the request spells it, so that
spelling does matter.

## Main definitions

* `SearchRequest.renameFields` : a request in which every field whose spelling does not matter is
  called otherwise.

## Main results

* `Filter.lower?_renameFields`, `Facet.entries_renameFields`, `SortField.toClause_renameField` :
  the parts of a request are compiled as if they named the fields as the index does.
* `SearchRequest.compile_eq_of_renameFields_eq` : requests that differ in the spelling of fields are
  compiled to one body.
-/

namespace SearchBridge

/-- The name of a field in the index is its own name in the index. -/
@[simp] theorem fieldName_fieldName (name : String) : fieldName (fieldName name) = fieldName name :=
  Text.lower_lower name

/-- A field is the score if it is so in the index. -/
theorem lowerAscii_eq_score_iff (name : String) :
    Text.lowerAscii name = "score" ↔ fieldName name = "score" :=
  Text.lowerAscii_eq_iff_lower_eq (by simp) name

/-! ### Catalogs -/

namespace Catalog

variable (catalog : Catalog) (name : String)

@[simp] theorem lookup_fieldName : catalog.lookup (fieldName name) = catalog.lookup name := by
  rw [lookup, lookup, fieldName_fieldName]

@[simp] theorem isBoolean_fieldName :
    catalog.isBoolean (fieldName name) = catalog.isBoolean name := by
  rw [isBoolean, isBoolean, lookup_fieldName]

@[simp] theorem hasRawSibling_fieldName :
    catalog.hasRawSibling (fieldName name) = catalog.hasRawSibling name := by
  rw [hasRawSibling, hasRawSibling, lookup_fieldName]

theorem insert_fieldName (d : FieldDescriptor) :
    catalog.insert (fieldName name) d = catalog.insert name d := by
  rw [insert, insert, fieldName_fieldName]

/-- Declarations with other names. -/
def renameDeclarations (rename : String → String) (declarations : List (String × FieldDescriptor)) :
    List (String × FieldDescriptor) :=
  declarations.map fun d => (rename d.1, d.2)

/-- A catalog is the same if its fields are declared under their names in the index. -/
theorem ofDeclarations_rename (declarations : List (String × FieldDescriptor)) :
    ofDeclarations (renameDeclarations fieldName declarations) = ofDeclarations declarations := by
  rw [ofDeclarations, renameDeclarations, List.foldl_map]
  simp only [insert_fieldName]
  rfl

end Catalog

/-! ### Filters -/

namespace Filter

mutual

/-- A filter with other names of fields. -/
def renameFields (rename : String → String) : Filter → Filter
  | .ids values => .ids values
  | .term name values => .term (rename name) values
  | .range name intervals => .range (rename name) intervals
  | .geoDistance name centre distance => .geoDistance (rename name) centre distance
  | .wildcard name pattern => .wildcard (rename name) pattern
  | .not none => .not none
  | .not (some operand) => .not (some (renameFields rename operand))
  | .and operands => .and (renameFieldsList rename operands)
  | .or operands => .or (renameFieldsList rename operands)

/-- Filters with other names of fields. -/
def renameFieldsList (rename : String → String) : List Filter → List Filter
  | [] => []
  | f :: rest => renameFields rename f :: renameFieldsList rename rest

end

variable (catalog : Catalog)

mutual

/-- A filter is lowered as if it named the fields as the index does. -/
theorem lower?_renameFields : (f : Filter) →
    (f.renameFields SearchBridge.fieldName).lower? catalog = f.lower? catalog
  | .ids _ => rfl
  | .term name values => by
    rw [renameFields, lower?, lower?, fieldName_fieldName, indexTerms, indexTerms,
      Catalog.isBoolean_fieldName]
  | .range _ _ | .geoDistance _ _ _ | .wildcard _ _ => by
    rw [renameFields, lower?, lower?, fieldName_fieldName]
  | .not none => rfl
  | .not (some f) => by rw [renameFields, lower?, lower?, lower?_renameFields f]
  | .and fs | .or fs => by rw [renameFields, lower?, lower?, lowerList_renameFieldsList fs]

theorem lowerList_renameFieldsList : (fs : List Filter) →
    lowerList catalog (renameFieldsList SearchBridge.fieldName fs) = lowerList catalog fs
  | [] => rfl
  | f :: rest => by
    rw [renameFieldsList, lowerList, lowerList, lower?_renameFields f,
      lowerList_renameFieldsList rest]

end

end Filter

/-! ### Facets -/

namespace Facet

/-- A facet with other names of fields. Its own field keeps its name if the facet is reported under
it. -/
def renameFields (rename : String → String) (f : Facet) : Facet where
  id := f.id
  fieldName := if f.id.isSome then rename f.fieldName else f.fieldName
  filter := f.filter.map (·.renameFields rename)
  counted := f.counted

variable (f : Facet) (catalog : Catalog)

@[simp] theorem effectiveId_renameFields (rename : String → String) :
    (f.renameFields rename).effectiveId = f.effectiveId := by
  rw [effectiveId, effectiveId, renameFields]
  cases f.id <;> rfl

@[simp] theorem fieldName_renameFields :
    SearchBridge.fieldName (f.renameFields SearchBridge.fieldName).fieldName =
      SearchBridge.fieldName f.fieldName := by
  rw [renameFields]
  split
  · exact fieldName_fieldName _
  · rfl

theorem targetField_renameFields :
    (f.renameFields SearchBridge.fieldName).targetField catalog = f.targetField catalog := by
  rw [targetField, targetField, fieldName_renameFields]

theorem scope?_renameFields :
    (f.renameFields SearchBridge.fieldName).scope? catalog = f.scope? catalog := by
  rw [scope?, scope?, renameFields, Option.bind_map]
  exact Option.bind_congr fun g _ => g.lower?_renameFields catalog

/-- A facet becomes the same aggregations as if it named the fields as the index does. -/
theorem entries_renameFields :
    (f.renameFields SearchBridge.fieldName).entries catalog = f.entries catalog := by
  have hcounted : (f.renameFields SearchBridge.fieldName).counted = f.counted := rfl
  rw [entries, entries, targetField_renameFields, scope?_renameFields, effectiveId_renameFields,
    hcounted]

end Facet

/-! ### Sort criteria -/

namespace SortField

/-- A sort criterion on a field of another name. -/
def renameField (rename : String → String) (s : SortField) : SortField :=
  { s with fieldName := rename s.fieldName }

theorem isScore_iff (s : SortField) : s.isScore ↔ SearchBridge.fieldName s.fieldName = "score" := by
  rw [isScore, beq_iff_eq, lowerAscii_eq_score_iff]

@[simp] theorem isScore_renameField (s : SortField) :
    (s.renameField SearchBridge.fieldName).isScore = s.isScore := by
  rw [Bool.eq_iff_iff, isScore_iff, isScore_iff, renameField, fieldName_fieldName]

/-- A criterion becomes the same clause, of the same kind, as if it named its field as the index
does. -/
theorem toClause_renameField (s : SortField) :
    (s.renameField SearchBridge.fieldName).toClause = s.toClause := by
  rw [toClause, toClause, isScore_renameField, renameField]
  dsimp only
  rw [fieldName_fieldName]

end SortField

/-! ### Requests -/

namespace SearchRequest

/-- A request with other names of fields, except for the fields that facets are reported under and
those to return. -/
def renameFields (rename : String → String) (r : SearchRequest) : SearchRequest :=
  { r with
    searchFields := r.searchFields.map (·.map rename)
    filter := r.filter.map (·.renameFields rename)
    sorting := r.sorting.map (·.renameField rename)
    facets := r.facets.map (·.renameFields rename) }

variable (r : SearchRequest) (index : String) (catalog : Catalog) (options : CompilerOptions)

theorem keywordFields_renameFields :
    (r.renameFields SearchBridge.fieldName).keywordFields options = r.keywordFields options := by
  rw [keywordFields, keywordFields, renameFields]
  cases r.searchFields with
  | none => rfl
  | some fields =>
    cases fields with
    | nil => rfl
    | cons field rest => simp [List.map_map]

theorem keywordQuery?_renameFields :
    (r.renameFields SearchBridge.fieldName).keywordQuery? options = r.keywordQuery? options := by
  rw [keywordQuery?, keywordQuery?, keywordFields_renameFields]
  rfl

theorem lowered_filter_renameFields :
    (r.renameFields SearchBridge.fieldName).filter.bind (·.lower? catalog) =
      r.filter.bind (·.lower? catalog) := by
  rw [renameFields, Option.bind_map]
  exact Option.bind_congr fun f _ => f.lower?_renameFields catalog

theorem aggregations?_renameFields :
    aggregations? catalog (r.renameFields SearchBridge.fieldName).facets =
      aggregations? catalog r.facets := by
  have hentries : (r.renameFields SearchBridge.fieldName).facets.flatMap (·.entries catalog) =
      r.facets.flatMap (·.entries catalog) := by
    rw [renameFields, List.flatMap_map]
    simp only [Facet.entries_renameFields]
  rw [aggregations?, aggregations?, aggregationTable, aggregationTable, hentries]

theorem sortClauses?_renameFields :
    (r.renameFields SearchBridge.fieldName).sortClauses? = r.sortClauses? := by
  rw [sortClauses?, sortClauses?, renameFields]
  cases r.sorting with
  | nil => rfl
  | cons s rest => simp [List.map_map, SortField.toClause_renameField]

theorem any_isScore_renameFields :
    (r.renameFields SearchBridge.fieldName).sorting.any (·.isScore) =
      r.sorting.any (·.isScore) := by
  rw [renameFields, List.any_map]
  simp only [Function.comp_def, SortField.isScore_renameField]

/-- A request is compiled as if it named the fields as the index does. -/
theorem compile_renameFields :
    (r.renameFields SearchBridge.fieldName).compile index catalog options =
      r.compile index catalog options := by
  rw [compile, compile, keywordQuery?_renameFields, lowered_filter_renameFields,
    aggregations?_renameFields, sortClauses?_renameFields, any_isScore_renameFields]
  rfl

/-- **The spelling of field names does not matter.** Requests that are equal once every field is
called as in the index are compiled to equal bodies, with catalogs whose declarations are equal
then. In particular, calling the fields as in the index changes nothing, which is no more than a
change of spelling because a name in the index is its own name in the index. -/
theorem compile_eq_of_renameFields_eq (index : String) (options : CompilerOptions) :
    (∀ (r s : SearchRequest) (ds es : List (String × FieldDescriptor)),
      r.renameFields SearchBridge.fieldName = s.renameFields SearchBridge.fieldName →
      Catalog.renameDeclarations SearchBridge.fieldName ds =
        Catalog.renameDeclarations SearchBridge.fieldName es →
      r.compile index (.ofDeclarations ds) options =
        s.compile index (.ofDeclarations es) options) ∧
    (∀ (r : SearchRequest) (ds : List (String × FieldDescriptor)),
      (r.renameFields SearchBridge.fieldName).compile index
          (.ofDeclarations (Catalog.renameDeclarations SearchBridge.fieldName ds)) options =
        r.compile index (.ofDeclarations ds) options) ∧
    ∀ name, SearchBridge.fieldName (SearchBridge.fieldName name) =
      SearchBridge.fieldName name := by
  refine ⟨fun r s ds es hrequest hcatalog => ?_, fun r ds => ?_, fieldName_fieldName⟩
  · rw [← r.compile_renameFields, hrequest, s.compile_renameFields, ← Catalog.ofDeclarations_rename,
      hcatalog, Catalog.ofDeclarations_rename]
  · rw [compile_renameFields, Catalog.ofDeclarations_rename]

/-- The fields of a request and of a catalog in capital letters, a capital sigma and the Kelvin sign
among them. -/
theorem compile_eq_of_capital_letters :
    let capitals : SearchRequest := {
      searchFields := some ["ΟΔΟΣ"]
      filter := some (.not (some (.and [.term "ΟΔΟΣ" ["1"], .wildcard "\u212AEY" "a*"])))
      sorting := [{ fieldName := "SCORE" }, { fieldName := "\u212AEY" }]
      facets := [{ id := some "K", fieldName := "\u212AEY", counted := .terms none none },
        { fieldName := "KEY", filter := some (.range "ΟΔΟΣ" []), counted := .intervals [] }] }
    let smalls : SearchRequest := {
      searchFields := some ["οδος"]
      filter := some (.not (some (.and [.term "οδος" ["1"], .wildcard "key" "a*"])))
      sorting := [{ fieldName := "score" }, { fieldName := "key" }]
      facets := [{ id := some "K", fieldName := "key", counted := .terms none none },
        { fieldName := "KEY", filter := some (.range "οδος" []), counted := .intervals [] }] }
    let boolean : FieldDescriptor := { type := .boolean }
    capitals.renameFields SearchBridge.fieldName = smalls.renameFields SearchBridge.fieldName ∧
      capitals.compile "products" (.ofDeclarations [("ΟΔΟΣ", boolean)]) {} =
        smalls.compile "products" (.ofDeclarations [("οδος", boolean)]) {} := by
  have hodos : SearchBridge.fieldName "ΟΔΟΣ" = SearchBridge.fieldName "οδος" := by decide +kernel
  have hkey : SearchBridge.fieldName "\u212AEY" = SearchBridge.fieldName "key" := by decide +kernel
  have hscore : SearchBridge.fieldName "SCORE" = SearchBridge.fieldName "score" := by decide +kernel
  intro capitals smalls boolean
  have hrequest : capitals.renameFields SearchBridge.fieldName =
      smalls.renameFields SearchBridge.fieldName := by
    simp [capitals, smalls, renameFields, Filter.renameFields, Filter.renameFieldsList,
      SortField.renameField, Facet.renameFields, hodos, hkey, hscore]
  refine ⟨hrequest, (compile_eq_of_renameFields_eq _ _).1 _ _ _ _ hrequest ?_⟩
  rw [Catalog.renameDeclarations, Catalog.renameDeclarations, List.map_singleton,
    List.map_singleton, hodos]

end SearchRequest

end SearchBridge
