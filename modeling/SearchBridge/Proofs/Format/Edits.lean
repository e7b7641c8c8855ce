import Mathlib.Logic.Relation
import SearchBridge.Proofs.Format.ReadBack
import SearchBridge.Proofs.Json.Edits

/-!
# Lenient reading of requests and responses

A request or a response is read back from its JSON even after the JSON was edited: the entries of
any object of the format may change places, the entry for the kind of a filter or a facet included,
entries with unknown names may come in, and entries that hold their defaults may be left out. Only
the fields of a document are data of their own, in which every entry and the order count.

## Main definitions

* `Part` : the structures of the format.
* `format` : their members, with the defaults for which these may be left out.
* `Part.ReadsAs` : the JSON of a structure is read as what other JSON is read as.

## Main results

* `Filter.tolerates_content`, `Facet.tolerates_content` : filters and facets of every kind are read
  after edits.
* `Part.readsAs_of_edit` : so is every structure.
* `read_after_edits` : requests and responses are read back after any number of edits.
-/

namespace SearchBridge

open Json Json.Raw

/-- The structures of requests and responses. -/
inductive Part where
  | request
  | sortField
  | point
  | filter
  | interval
  | facet
  | namedInterval
  | response
  | document
  | facetResult
  | facetCount

/-! ### Members -/

/-- The members of a point; none may be left out. -/
def GeoPoint.members : List (Member Part) := [{ name := "latitude" }, { name := "longitude" }]

/-- The members of an interval. -/
def Interval.members : List (Member Part) := [
  { name := "lower", default := some .null },
  { name := "upper", default := some .null },
  { name := "includeLower", default := some (.bool false) },
  { name := "includeUpper", default := some (.bool false) }]

/-- The members of a named interval. -/
def NamedInterval.members : List (Member Part) :=
  { name := "id", default := some (.string "") } :: Interval.members

/-- The members of a filter of a kind; only operands may be left out. -/
def Filter.members (kind : String) : List (Member Part) :=
  if kind = "ids" then [{ name := "values" }]
  else if kind = "term" then [{ name := "fieldName" }, { name := "values" }]
  else if kind = "range" then
    [{ name := "fieldName" }, { name := "values", content := .many .interval }]
  else if kind = "geoDistance" then
    [{ name := "fieldName" }, { name := "location", content := .one .point },
      { name := "distance" }]
  else if kind = "wildcard" then [{ name := "fieldName" }, { name := "value" }]
  else if kind = "not" then
    [{ name := "childFilter", default := some .null, content := .one .filter }]
  else if kind = "and" ∨ kind = "or" then
    [{ name := "childFilters", default := some (.array []), content := .many .filter }]
  else []

/-- The members of a facet of a kind. -/
def Facet.members (kind : String) : List (Member Part) :=
  if kind = "term" then [
    { name := "id", default := some .null },
    { name := "fieldName", default := some (.string "") },
    { name := "size", default := some .null },
    { name := "values", default := some .null },
    { name := "filter", default := some .null, content := .one .filter }]
  else if kind = "range" then [
    { name := "id", default := some .null },
    { name := "fieldName", default := some (.string "") },
    { name := "values", default := some (.array []), content := .many .namedInterval },
    { name := "filter", default := some .null, content := .one .filter }]
  else []

/-- The members of a sort criterion. -/
def SortField.members : List (Member Part) := [
  { name := "fieldName", default := some (.string "") },
  { name := "isDescending", default := some (.bool false) },
  { name := "location", default := some .null, content := .one .point }]

/-- The members of a request. -/
def SearchRequest.members : List (Member Part) := [
  { name := "searchKeywords", default := some .null },
  { name := "searchFields", default := some .null },
  { name := "isFuzzySearch", default := some (.bool false) },
  { name := "fuzziness", default := some .null },
  { name := "filter", default := some .null, content := .one .filter },
  { name := "sorting", default := some (.array []), content := .many .sortField },
  { name := "skip", default := some (.int 0) },
  { name := "take", default := some (.int 20) },
  { name := "aggregations", default := some (.array []), content := .many .facet },
  { name := "includeFields", default := some .null }]

/-- The members of a count. -/
def FacetCount.members : List (Member Part) := [
  { name := "id", default := some (.string "") },
  { name := "count", default := some (.int 0) }]

/-- The members of the counts of a facet. -/
def FacetResult.members : List (Member Part) := [
  { name := "id", default := some (.string "") },
  { name := "values", default := some (.array []), content := .many .facetCount }]

/-- The members of a document. Its fields are not edited. -/
def Document.members : List (Member Part) := [
  { name := "id", default := some (.string "") },
  { name := "fields", default := some (.object []) },
  { name := "relevanceScore", default := some .null }]

/-- The members of a response. -/
def SearchResponse.members : List (Member Part) := [
  { name := "totalCount", default := some (.int 0) },
  { name := "documents", default := some (.array []), content := .many .document },
  { name := "aggregations", default := some (.array []), content := .many .facetResult }]

/-- The members of the structures. Those of filters and facets depend on the entry for the kind. -/
def format : Schema Part where
  isTagged
    | .filter | .facet => true
    | _ => false
  members
    | .request, _ => SearchRequest.members
    | .sortField, _ => SortField.members
    | .point, _ => GeoPoint.members
    | .filter, entries => (kindOf? Filter.kinds true entries).elim [] Filter.members
    | .interval, _ => Interval.members
    | .facet, entries => (kindOf? Facet.kinds false entries).elim [] Facet.members
    | .namedInterval, _ => NamedInterval.members
    | .response, _ => SearchResponse.members
    | .document, _ => Document.members
    | .facetResult, _ => FacetResult.members
    | .facetCount, _ => FacetCount.members

/-! ### Structures without a tag -/

/-- Whatever structure one value is read as, the other is read as. -/
def Part.ReadsAs : Part → Json → Json → Prop
  | .request => Json.ReadsAs SearchRequest.read
  | .sortField => Json.ReadsAs SortField.read
  | .point => Json.ReadsAs GeoPoint.read
  | .filter => fun v w => ∀ isNested f, Filter.ofJson? isNested v = some f →
      Filter.ofJson? isNested w = some f
  | .interval => Json.ReadsAs Interval.read
  | .facet => Json.ReadsAs Facet.read
  | .namedInterval => Json.ReadsAs NamedInterval.read
  | .response => Json.ReadsAs SearchResponse.read
  | .document => Json.ReadsAs Document.read
  | .facetResult => Json.ReadsAs FacetResult.read
  | .facetCount => Json.ReadsAs FacetCount.read

/-- What no edit touches is read as before. -/
theorem readsAs_of_plain {α : Type} {read : Raw → Except Error α} {v w : Json}
    (h : (Content.plain (π := Part)).Alike Part.ReadsAs v w) : Json.ReadsAs read v w :=
  h.elim

/-- A filter of its own is read after edits, as one inside a facet is. -/
theorem Filter.readsAs_read (v w : Json) (h : Part.filter.ReadsAs v w) :
    Json.ReadsAs Filter.read v w := fun f hf =>
  read_raw_eq_ok_iff.mpr (h false f (read_raw_eq_ok_iff.mp hf))

theorem Filter.readsAs_readFilter (v w : Json) (h : Part.filter.ReadsAs v w) :
    Json.ReadsAs Facet.readFilter v w := fun f hf =>
  Facet.readFilter_raw_eq_ok_iff.mpr (h true f (Facet.readFilter_raw_eq_ok_iff.mp hf))

theorem GeoPoint.fits :
    RecordFits Part.ReadsAs GeoPoint.fields ⟨.nan, .nan⟩ GeoPoint.members where
  fits := .cons (.mandatory readsAs_of_plain) (.cons (.mandatory readsAs_of_plain) .nil)
  distinct := by decide
  commute := by simp [GeoPoint.fields, RecordField.mandatory_commutes]

theorem Interval.fits : RecordFits Part.ReadsAs (Interval.fieldsIn id) {} Interval.members where
  fits := .cons (.optional rfl rfl readsAs_of_plain) <|
    .cons (.optional rfl rfl readsAs_of_plain) <|
    .cons (.optional rfl rfl readsAs_of_plain) <|
    .cons (.optional rfl rfl readsAs_of_plain) .nil
  distinct := by decide
  commute := by simp [Interval.fieldsIn, RecordField.optional_commutes]

theorem NamedInterval.fits :
    RecordFits Part.ReadsAs NamedInterval.fields {} NamedInterval.members where
  fits := .cons (.optional rfl rfl readsAs_of_plain) <|
    .cons (.optional rfl rfl readsAs_of_plain) <|
    .cons (.optional rfl rfl readsAs_of_plain) <|
    .cons (.optional rfl rfl readsAs_of_plain) <|
    .cons (.optional rfl rfl readsAs_of_plain) .nil
  distinct := by decide
  commute := by simp [NamedInterval.fields, Interval.fieldsIn, RecordField.optional_commutes]

theorem SortField.fits : RecordFits Part.ReadsAs SortField.fields {} SortField.members where
  fits := .cons (.optional rfl rfl readsAs_of_plain) <|
    .cons (.optional rfl rfl readsAs_of_plain) <|
    .cons (.optional rfl rfl (Content.readsAs_option fun _ _ h => h)) .nil
  distinct := by decide
  commute := by simp [SortField.fields, RecordField.optional_commutes]

theorem FacetCount.fits : RecordFits Part.ReadsAs FacetCount.fields {} FacetCount.members where
  fits := .cons (.optional rfl rfl readsAs_of_plain) <|
    .cons (.optional (readUInt64_nat 0) rfl readsAs_of_plain) .nil
  distinct := by decide
  commute := by simp [FacetCount.fields, RecordField.optional_commutes]

theorem FacetResult.fits : RecordFits Part.ReadsAs FacetResult.fields {} FacetResult.members where
  fits := .cons (.optional rfl rfl readsAs_of_plain) <|
    .cons (.optional rfl rfl (Content.readsAs_list fun _ _ h => h)) .nil
  distinct := by decide
  commute := by simp [FacetResult.fields, RecordField.optional_commutes]

theorem Document.fits : RecordFits Part.ReadsAs Document.jsonFields {} Document.members where
  fits := .cons (.optional rfl rfl readsAs_of_plain) <|
    .cons (.optional rfl rfl readsAs_of_plain) <|
    .cons (.optional rfl rfl readsAs_of_plain) .nil
  distinct := by decide
  commute := by simp [Document.jsonFields, RecordField.optional_commutes]

theorem SearchResponse.fits :
    RecordFits Part.ReadsAs SearchResponse.fields {} SearchResponse.members where
  fits := .cons (.optional (readUInt64_nat 0) rfl readsAs_of_plain) <|
    .cons (.optional rfl rfl (Content.readsAs_list fun _ _ h => h)) <|
    .cons (.optional rfl rfl (Content.readsAs_list fun _ _ h => h)) .nil
  distinct := by decide
  commute := by simp [SearchResponse.fields, RecordField.optional_commutes]

theorem SearchRequest.fits :
    RecordFits Part.ReadsAs SearchRequest.fields {} SearchRequest.members where
  fits := .cons (.optional rfl rfl readsAs_of_plain) <|
    .cons (.optional rfl rfl readsAs_of_plain) <|
    .cons (.optional rfl rfl readsAs_of_plain) <|
    .cons (.optional rfl rfl readsAs_of_plain) <|
    .cons (.optional rfl rfl (Content.readsAs_option Filter.readsAs_read)) <|
    .cons (.optional rfl rfl (Content.readsAs_list fun _ _ h => h)) <|
    .cons (.optional (readInt64_int 0) rfl readsAs_of_plain) <|
    .cons (.optional (readInt64_int 20) rfl readsAs_of_plain) <|
    .cons (.optional rfl rfl (Content.readsAs_list fun _ _ h => h)) <|
    .cons (.optional rfl rfl readsAs_of_plain) .nil
  distinct := by decide
  commute := by simp [SearchRequest.fields, RecordField.optional_commutes]

/-! ### Filters -/

namespace Filter

theorem idsFits : RecordFits Part.ReadsAs idsFields [] (members "ids") where
  fits := .cons (.mandatory readsAs_of_plain) .nil
  distinct := by decide
  commute := List.pairwise_singleton _ _

theorem termFits : RecordFits Part.ReadsAs termFields ("", []) (members "term") where
  fits := .cons (.mandatory readsAs_of_plain) (.cons (.mandatory readsAs_of_plain) .nil)
  distinct := by decide
  commute := by simp [termFields, RecordField.mandatory_commutes]

theorem rangeFits : RecordFits Part.ReadsAs rangeFields ("", []) (members "range") where
  fits := .cons (.mandatory readsAs_of_plain) <|
    .cons (.mandatory (Content.readsAs_list fun _ _ h => h)) .nil
  distinct := by decide
  commute := by simp [rangeFields, RecordField.mandatory_commutes]

theorem geoFits : RecordFits Part.ReadsAs geoFields ("", ⟨.nan, .nan⟩, .nan)
    (members "geoDistance") where
  fits := .cons (.mandatory readsAs_of_plain) <| .cons (.mandatory fun h => h.2.2) <|
    .cons (.mandatory readsAs_of_plain) .nil
  distinct := by decide
  commute := by simp [geoFields, RecordField.mandatory_commutes]

theorem wildcardFits : RecordFits Part.ReadsAs wildcardFields ("", "") (members "wildcard") where
  fits := .cons (.mandatory readsAs_of_plain) (.cons (.mandatory readsAs_of_plain) .nil)
  distinct := by decide
  commute := by simp [wildcardFields, RecordField.mandatory_commutes]

/-- What the operand of a negation is read as. -/
def operand? (v : Json) : Option (Option Filter) := orAbsent? v (ofJson? true v)

theorem operandIn?_eq_soleValue? (s : List (String × Json)) :
    operandIn? s = soleValue? "childFilter" none operand? s := by
  induction s with
  | nil => rfl
  | cons e rest ih =>
    rw [operandIn?, soleValue?_cons, ih]
    rfl

theorem operandsIn?_eq_soleValue? (s : List (String × Json)) :
    operandsIn? s = soleValue? "childFilters" [] operands? s := by
  induction s with
  | nil => rfl
  | cons e rest ih => rw [operandsIn?, soleValue?_cons, ih]

/-- Reads a filter of a kind from the entries other than its tag. -/
def content? (kind : String) (s : List (String × Json)) : Option Filter :=
  if kind = "not" then (soleValue? "childFilter" none operand? s).map .not
  else if kind = "and" then (soleValue? "childFilters" [] operands? s).map .and
  else if kind = "or" then (soleValue? "childFilters" [] operands? s).map .or
  else leaf? kind (.object s)

theorem ofJson?_object (isNested : Bool) (s : List (String × Json)) :
    ofJson? isNested (.object s) = (kindOf? kinds isNested s).bind fun kind =>
      content? kind (s.filter (·.1 != tagKey)) := by
  rw [ofJson?, operandIn?_eq_soleValue?, operandsIn?_eq_soleValue?]
  simp only [content?]
  rw [soleValue?_untagged (by decide), soleValue?_untagged (by decide)]
  rfl

theorem operandItems?_eq_some_iff : {vs : List Json} → {fs : List Filter} →
    (operandItems? vs = some fs ↔ List.Forall₂ (fun v f => ofJson? true v = some f) vs fs)
  | [], fs => by
    rw [operandItems?, List.forall₂_nil_left_iff, Option.some.injEq, eq_comm]
  | v :: vs, fs => by
    rw [operandItems?, List.forall₂_cons_left_iff]
    simp only [Option.bind_eq_bind, Option.bind_eq_some_iff, operandItems?_eq_some_iff]
    constructor
    · rintro ⟨f, hf, gs, hgs, h⟩
      exact ⟨f, gs, hf, hgs, (Option.some.inj h).symm⟩
    · rintro ⟨f, gs, hf, hgs, rfl⟩
      exact ⟨f, hf, gs, hgs, rfl⟩

/-- The operand of a negation is read after edits. -/
theorem tolerates_operand : Tolerates Part.ReadsAs ((members "not").map (·.name)) (members "not")
    (soleValue? "childFilter" none operand?) := by
  refine tolerates_soleValue (m := ⟨"childFilter", some .null, .one Part.filter⟩) ?_ ?_
  · rintro _ ⟨⟩
    rfl
  · rintro v w ⟨hv, hw, halike⟩ x hx
    rw [operand?, orAbsent?_of_ne_null (ne_null_of_isObject hv)] at hx
    obtain ⟨f, hf, rfl⟩ := Option.map_eq_some_iff.mp hx
    rw [operand?, orAbsent?_of_ne_null (ne_null_of_isObject hw), halike true f hf]
    rfl

/-- The operands of a conjunction or disjunction are read after edits. -/
theorem tolerates_operands : Tolerates Part.ReadsAs ((members "and").map (·.name)) (members "and")
    (soleValue? "childFilters" [] operands?) := by
  refine tolerates_soleValue (m := ⟨"childFilters", some (.array []), .many Part.filter⟩) ?_ ?_
  · rintro _ ⟨⟩
    rfl
  · rintro _ _ ⟨vs, ws, v, w, rfl, rfl, halike⟩ fs hfs
    rw [operands?, operandItems?_eq_some_iff] at hfs ⊢
    exact forall₂_replace (halike true) vs hfs

/-- **Filters of every kind are read after edits** of the entries other than the tag. -/
theorem tolerates_content {kind : String} (h : kind ∈ kinds) :
    Tolerates Part.ReadsAs ((members kind).map (·.name)) (members kind) (content? kind) := by
  simp only [kinds, List.mem_cons, List.not_mem_nil, or_false] at h
  obtain rfl | rfl | rfl | rfl | rfl | rfl | rfl | rfl := h
  · exact (tolerates_record idsFits).map _
  · exact (tolerates_record termFits).map _
  · exact (tolerates_record rangeFits).map _
  · exact (tolerates_record geoFits).map _
  · exact (tolerates_record wildcardFits).map _
  · exact tolerates_operand.map _
  · exact tolerates_operands.map _
  · exact tolerates_operands.map _

theorem tag_notMem_members {kind : String} (h : kind ∈ kinds) :
    ∀ m ∈ members kind, m.name ≠ tagKey := by
  revert kind
  decide

theorem readsAs_of_entryEdit {s t : List (String × Json)}
    (h : EntryEdit Part.ReadsAs (format.knownNames .filter s) (format.members .filter s) s t) :
    Part.filter.ReadsAs (.object s) (.object t) := by
  intro isNested f hf
  rw [ofJson?_object] at hf ⊢
  refine tagged_of_entryEdit (fun _ => tolerates_content) (fun _ => tag_notMem_members)
    (fun kind hkind => ?_) h hf
  rw [format]
  dsimp only
  rw [kindOf?_nested hkind]
  rfl

end Filter

/-! ### Facets -/

namespace Facet

theorem termFits :
    RecordFits Part.ReadsAs termFields { counted := .terms none none } (members "term") where
  fits := .cons (.optional rfl rfl readsAs_of_plain) <|
    .cons (.optional rfl rfl readsAs_of_plain) <|
    .cons (.optional rfl rfl readsAs_of_plain) <|
    .cons (.optional rfl rfl readsAs_of_plain) <|
    .cons (.optional rfl rfl (Content.readsAs_option Filter.readsAs_readFilter)) .nil
  distinct := by decide
  commute := by
    simp only [termFields, idField, nameField, filterField, List.pairwise_cons,
      List.forall_mem_cons, List.mem_singleton, forall_eq, List.not_mem_nil, false_implies,
      implies_true, List.Pairwise.nil, and_true]
    -- Setting the bound or the terms depends on what the facet counts.
    and_intros <;>
      exact RecordField.optional_commutes fun _ _ f => by obtain ⟨_, _, _, _ | _⟩ := f <;> rfl

theorem rangeFits :
    RecordFits Part.ReadsAs rangeFields { counted := .intervals [] } (members "range") where
  fits := .cons (.optional rfl rfl readsAs_of_plain) <|
    .cons (.optional rfl rfl readsAs_of_plain) <|
    .cons (.optional rfl rfl (Content.readsAs_list fun _ _ h => h)) <|
    .cons (.optional rfl rfl (Content.readsAs_option Filter.readsAs_readFilter)) .nil
  distinct := by decide
  commute := by simp [rangeFields, idField, nameField, filterField, RecordField.optional_commutes]

/-- **Facets of every kind are read after edits** of the entries other than the tag. -/
theorem tolerates_content {kind : String} (h : kind ∈ kinds) :
    Tolerates Part.ReadsAs ((members kind).map (·.name)) (members kind)
      fun s => content? kind (.object s) := by
  simp only [kinds, List.mem_cons, List.not_mem_nil, or_false] at h
  obtain rfl | rfl := h
  · exact tolerates_record termFits
  · exact tolerates_record rangeFits

theorem tag_notMem_members {kind : String} (h : kind ∈ kinds) :
    ∀ m ∈ members kind, m.name ≠ tagKey := by
  revert kind
  decide

theorem readsAs_of_entryEdit {s t : List (String × Json)}
    (h : EntryEdit Part.ReadsAs (format.knownNames .facet s) (format.members .facet s) s t) :
    Part.facet.ReadsAs (.object s) (.object t) := by
  intro f hf
  rw [read_raw_eq_ok_iff] at hf ⊢
  refine tagged_of_entryEdit (fun _ => tolerates_content) (fun _ => tag_notMem_members)
    (fun kind hkind => ?_) h hf
  rw [format]
  dsimp only
  rw [hkind]
  rfl

end Facet

/-! ### Requests and responses -/

/-- Every structure is read after edits of its entries, if those inside are. -/
theorem Part.readsAs_of_entryEdit : (part : Part) → (s t : List (String × Json)) →
    EntryEdit Part.ReadsAs (format.knownNames part s) (format.members part s) s t →
      part.ReadsAs (.object s) (.object t)
  | .request, _, _, h => SearchRequest.fits.readsAs h
  | .sortField, _, _, h => SortField.fits.readsAs h
  | .point, _, _, h => GeoPoint.fits.readsAs h
  | .filter, _, _, h => Filter.readsAs_of_entryEdit h
  | .interval, _, _, h => Interval.fits.readsAs h
  | .facet, _, _, h => Facet.readsAs_of_entryEdit h
  | .namedInterval, _, _, h => NamedInterval.fits.readsAs h
  | .response, _, _, h => SearchResponse.fits.readsAs h
  | .document, _, _, h => Document.fits.readsAs h
  | .facetResult, _, _, h => FacetResult.fits.readsAs h
  | .facetCount, _, _, h => FacetCount.fits.readsAs h

/-- **One edit changes nothing.** What the JSON of a structure is read as, it is read as after an
edit anywhere inside. -/
theorem Part.readsAs_of_edit {part : Part} {v w : Json} (h : format.Edit part v w) :
    part.ReadsAs v w :=
  h.alike readsAs_of_entryEdit

/-- **Requests and responses are read leniently.** However the JSON of a request is edited, entries
of its structures being moved, added under unknown names or left out for their defaults, the request
is read back, if its numbers are finite. So is a response, whose documents have their fields in
order and repeat no key. -/
theorem read_after_edits :
    (∀ (r : SearchRequest) (v : Json), r.IsFinite →
      Relation.ReflTransGen (format.Edit .request) r.toJson v →
        SearchRequest.read v.raw = .ok r) ∧
    ∀ (r : SearchResponse) (v : Json), r.IsFinite → r.HasDistinctKeys →
      Relation.ReflTransGen (format.Edit .response) r.toJson v →
        SearchResponse.read v.raw = .ok r := by
  constructor
  · intro r v hfinite hedits
    induction hedits with
    | refl => exact SearchRequest.read_toJson hfinite
    | tail _ hedit ih => exact Part.readsAs_of_edit hedit r ih
  · intro r v hfinite hkeys hedits
    induction hedits with
    | refl => exact SearchResponse.read_toJson hfinite hkeys
    | tail _ hedit ih => exact Part.readsAs_of_edit hedit r ih

/-- The tag of a filter is moved behind its values, deep inside a request, and an unknown entry
comes into a response; defaults are left out of both. -/
theorem read_after_edits_of_moved_tag :
    let request : SearchRequest := { filter := some (.not (some (.ids ["1"]))) }
    let edited : Json := .object [("searchKeywords", .null), ("searchFields", .null),
      ("isFuzzySearch", .bool false), ("fuzziness", .null),
      ("filter", .object [("type", .string "not"),
        ("childFilter", .object [("values", .strings ["1"]), ("type", .string "ids")])]),
      ("sorting", .array []), ("skip", .int 0), ("aggregations", .array []),
      ("includeFields", .null)]
    let response : SearchResponse :=
      { documents := [{ id := "7", fields := [("b", .null), ("a", .bool true)] }] }
    let edited' : Json := .object [("took", .int 5), ("totalCount", .int 0),
      ("documents", .array [.object [("id", .string "7"),
        ("fields", .object [("b", .null), ("a", .bool true)])]]),
      ("aggregations", .array [])]
    SearchRequest.read edited.raw = .ok request ∧
      SearchResponse.read edited'.raw = .ok response := by
  intro request edited response edited'
  refine ⟨read_after_edits.1 request edited ?_ ?_, read_after_edits.2 response edited' ?_ ?_ ?_⟩
  · exact ⟨by simp [request, Filter.IsFinite], nofun, nofun⟩
  · let first : List (String × Json) := [("searchKeywords", .null), ("searchFields", .null),
      ("isFuzzySearch", .bool false), ("fuzziness", .null)]
    let last : List (String × Json) := [("aggregations", .array []), ("includeFields", .null)]
    let ids : Json := .object [("type", .string "ids"), ("values", .strings ["1"])]
    let moved : Json := .object [("values", .strings ["1"]), ("type", .string "ids")]
    let filter (operand : Json) : Json :=
      .object [("type", .string "not"), ("childFilter", operand)]
    let page (operand : Json) : List (String × Json) :=
      first ++ [("filter", filter operand), ("sorting", .array []), ("skip", .int 0)]
    have hoperand : format.Edit .filter (filter ids) (filter moved) :=
      .one (s := [("type", .string "not")]) (m := ⟨"childFilter", some .null, .one .filter⟩)
        List.mem_cons_self rfl (.permute (.swap _ _ _))
    have hmove : format.Edit .request request.toJson
        (.object (page moved ++ ("take", .int 20) :: last)) :=
      .one (s := first) (m := ⟨"filter", some .null, .one .filter⟩) (by
        simp [format, SearchRequest.members]) rfl hoperand
    have hdrop : format.Edit .request (.object (page moved ++ ("take", .int 20) :: last)) edited :=
      .drop (s := page moved) (m := ⟨"take", some (.int 20), .plain⟩)
        (by simp [format, SearchRequest.members]) rfl
    exact .tail (.single hmove) hdrop
  · rintro d hd score hscore
    cases List.mem_singleton.mp hd
    cases hscore
  · rintro d hd
    cases List.mem_singleton.mp hd
    rfl
  · let fields : List (String × Json) :=
      [("id", .string "7"), ("fields", .object [("b", .null), ("a", .bool true)])]
    let entries (document : List (String × Json)) : List (String × Json) :=
      [("totalCount", .int 0), ("documents", .array [.object document]),
        ("aggregations", .array [])]
    have hdrop : format.Edit .document (.object (fields ++ [("relevanceScore", .null)]))
        (.object (fields ++ [])) :=
      .drop (m := ⟨"relevanceScore", some .null, .plain⟩) (by simp [format, Document.members]) rfl
    have hdocument : format.Edit .response response.toJson (.object (entries fields)) :=
      .many (s := [("totalCount", .int 0)])
        (m := ⟨"documents", some (.array []), .many .document⟩) (l := [])
        (by simp [format, SearchResponse.members]) rfl hdrop
    have hadd : format.Edit .response (.object (entries fields)) edited' :=
      .add (s := []) "took" (.int 5) (by decide)
    exact .tail (.single hdocument) hadd

end SearchBridge
