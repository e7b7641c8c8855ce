import SearchBridge.Proofs.Json.ReadBack
import SearchBridge.Proofs.Response.Documents
import SearchBridge.Request

/-!
# Reading requests and responses back

A request whose coordinates and distances are finite numbers is read back from its JSON, and so is a
response whose scores are finite and whose documents repeat no key. The parts come first: points,
intervals, filters at any depth, facets and sort criteria on one side, counts and documents on the
other.

## Main definitions

* `Filter.IsFinite`, `SearchRequest.IsFinite`, `SearchResponse.IsFinite` : all doubles are finite.
* `SearchResponse.HasDistinctKeys` : no object in the fields of a document repeats a key.

## Main results

* `Filter.ofJson?_toJson` : reading filters back.
* `SearchRequest.read_toJson`, `SearchResponse.read_toJson` : reading requests and responses back.
-/

namespace SearchBridge

open Json Json.Raw

/-! ### Points and intervals -/

theorem GeoPoint.read_toJson {p : GeoPoint} (h : p.IsFinite) : read p.toJson.raw = .ok p := by
  obtain ⟨latitude, longitude⟩ := p
  obtain ⟨⟨x, rfl⟩, y, rfl⟩ := h
  rw [toJson, read, readRecord_inOrder (by decide) rfl]
  refine (readPositions_mandatory (readDouble_double x) _ _).trans ?_
  exact readPositions_mandatory (readDouble_double y) _ _

/-- The members of an interval are read back into a record that holds one. -/
theorem Interval.readPositions_entries {σ : Type} (lift : (Interval → Interval) → σ → σ)
    (i : Interval) (record : σ) :
    readPositions (fieldsIn lift) (rawItems (i.entries.map Prod.snd)) record =
      .ok (lift (fun j => { j with includeUpper := i.includeUpper })
        (lift (fun j => { j with includeLower := i.includeLower })
          (lift (fun j => { j with upper := i.upper })
            (lift (fun j => { j with lower := i.lower }) record)))) := by
  refine (readPositions_optional (readOption_text i.lower) _ _).trans ?_
  refine (readPositions_optional (readOption_text i.upper) _ _).trans ?_
  refine (readPositions_optional (readBool_bool i.includeLower) _ _).trans ?_
  exact readPositions_optional (readBool_bool i.includeUpper) _ _

theorem Interval.read_toJson (i : Interval) : read i.toJson.raw = .ok i := by
  rw [toJson, read, readRecord_inOrder (by decide) rfl]
  exact readPositions_entries id i {}

theorem NamedInterval.read_toJson (v : NamedInterval) : read v.toJson.raw = .ok v := by
  rw [toJson, read, readRecord_inOrder (by decide) rfl]
  refine (readPositions_optional (readText_string v.id) _ _).trans ?_
  exact Interval.readPositions_entries _ v.interval _

/-! ### Filters -/

namespace Filter

mutual

/-- All coordinates and distances in a filter are finite numbers. -/
def IsFinite : Filter → Prop
  | .geoDistance _ centre distance => centre.IsFinite ∧ ∃ x, distance = .finite x
  | .not (some f) => IsFinite f
  | .and fs => IsFiniteList fs
  | .or fs => IsFiniteList fs
  | _ => True

/-- All coordinates and distances in filters are finite numbers. -/
def IsFiniteList : List Filter → Prop
  | [] => True
  | f :: rest => IsFinite f ∧ IsFiniteList rest

end

theorem toJson_ne_null (f : Filter) : f.toJson ≠ .null := by
  cases f with
  | not operand => cases operand <;> nofun
  | _ => nofun

theorem orAbsent?_of_ne_null {v : Json} (h : v ≠ .null) (operand : Option Filter) :
    orAbsent? v operand = operand.map some := by
  cases v with
  | null => exact absurd rfl h
  | _ => rfl

mutual

/-- A filter whose numbers are finite is read back, alone or inside another tagged value. -/
theorem ofJson?_toJson : (f : Filter) → f.IsFinite → (isNested : Bool) →
    ofJson? isNested f.toJson = some f
  | .ids values, _, _ => by
    have hcontent : (Json.object [("values", .strings values)]).record? idsFields [] =
        some values := by
      refine record?_inOrder idsFields (by decide) rfl ?_
      exact readPositions_mandatory (readList_strings values) _ _
    exact congrArg (Option.map Filter.ids) hcontent
  | .term name values, _, _ => by
    have hcontent : (Json.object [("fieldName", .string name),
        ("values", .strings values)]).record? termFields ("", []) = some (name, values) := by
      refine record?_inOrder termFields (by decide) rfl ?_
      refine (readPositions_mandatory (readText_string name) _ _).trans ?_
      exact readPositions_mandatory (readList_strings values) _ _
    exact congrArg (Option.map fun r => Filter.term r.1 r.2) hcontent
  | .range name intervals, _, _ => by
    have hcontent : (Json.object [("fieldName", .string name),
        ("values", .array (intervals.map Interval.toJson))]).record? rangeFields ("", []) =
          some (name, intervals) := by
      refine record?_inOrder rangeFields (by decide) rfl ?_
      refine (readPositions_mandatory (readText_string name) _ _).trans ?_
      exact readPositions_mandatory (readList_array fun i _ => i.read_toJson) _ _
    exact congrArg (Option.map fun r => Filter.range r.1 r.2) hcontent
  | .geoDistance name centre _, ⟨hcentre, x, rfl⟩, _ => by
    have hcontent : (Json.object [("fieldName", .string name), ("location", centre.toJson),
        ("distance", .double (.finite x))]).record? geoFields ("", ⟨.nan, .nan⟩, .nan) =
          some (name, centre, .finite x) := by
      refine record?_inOrder geoFields (by decide) rfl ?_
      refine (readPositions_mandatory (readText_string name) _ _).trans ?_
      refine (readPositions_mandatory (GeoPoint.read_toJson hcentre) _ _).trans ?_
      exact readPositions_mandatory (readDouble_double x) _ _
    exact congrArg (Option.map fun r => Filter.geoDistance r.1 r.2.1 r.2.2) hcontent
  | .wildcard name pattern, _, _ => by
    have hcontent : (Json.object [("fieldName", .string name),
        ("value", .string pattern)]).record? wildcardFields ("", "") = some (name, pattern) := by
      refine record?_inOrder wildcardFields (by decide) rfl ?_
      refine (readPositions_mandatory (readText_string name) _ _).trans ?_
      exact readPositions_mandatory (readText_string pattern) _ _
    exact congrArg (Option.map fun r => Filter.wildcard r.1 r.2) hcontent
  | .not none, _, _ => rfl
  | .not (some f), h, _ => by
    have hoperand : orAbsent? f.toJson (ofJson? true f.toJson) = some (some f) := by
      rw [orAbsent?_of_ne_null f.toJson_ne_null, ofJson?_toJson f h true]
      rfl
    exact congrArg (Option.map Filter.not) hoperand
  | .and fs, h, _ => congrArg (Option.map Filter.and) (operandItems?_toJsonList fs h)
  | .or fs, h, _ => congrArg (Option.map Filter.or) (operandItems?_toJsonList fs h)

theorem operandItems?_toJsonList : (fs : List Filter) → IsFiniteList fs →
    operandItems? (toJsonList fs) = some fs
  | [], _ => rfl
  | f :: rest, ⟨hf, hrest⟩ => by
    rw [toJsonList, operandItems?, ofJson?_toJson f hf true, operandItems?_toJsonList rest hrest]
    rfl

end

theorem read_raw_eq_ok_iff {v : Json} {f : Filter} :
    read v.raw = .ok f ↔ ofJson? false v = some f := by
  rw [read, whole_raw]
  cases hread : ofJson? false v <;> simp [hread, bind, Except.bind, pure, Except.pure]

theorem read_toJson {f : Filter} (h : f.IsFinite) : read f.toJson.raw = .ok f :=
  read_raw_eq_ok_iff.mpr (ofJson?_toJson f h false)

end Filter

/-! ### Facets -/

namespace Facet

/-- All numbers in the filter of a facet are finite. -/
def IsFinite (f : Facet) : Prop := ∀ g ∈ f.filter, g.IsFinite

theorem readFilter_raw_eq_ok_iff {v : Json} {f : Filter} :
    readFilter v.raw = .ok f ↔ Filter.ofJson? true v = some f := by
  rw [readFilter, whole_raw]
  cases hread : Filter.ofJson? true v <;> simp [hread, bind, Except.bind, pure, Except.pure]

theorem readOption_readFilter {filter : Option Filter} (h : ∀ g ∈ filter, g.IsFinite) :
    readOption readFilter (orNull Filter.toJson filter).raw = .ok filter :=
  readOption_orNull fun g hg =>
    ⟨g.toJson_ne_null, readFilter_raw_eq_ok_iff.mpr (g.ofJson?_toJson (h g hg) true)⟩

theorem readOption_size (size : Option Int32) :
    readOption readInt32 (orNull (fun n : Int32 => .int n.toInt) size).raw = .ok size :=
  readOption_orNull fun n _ => ⟨nofun, readInt32_int n⟩

/-- A facet whose numbers are finite is read back. -/
theorem ofJson?_toJson {f : Facet} (h : f.IsFinite) : ofJson? f.toJson = some f := by
  obtain ⟨id, name, filter, counted⟩ := f
  cases counted with
  | terms size values =>
    refine record?_inOrder termFields (by decide) rfl ?_
    refine (readPositions_optional (readOption_text id) _ _).trans ?_
    refine (readPositions_optional (readText_string name) _ _).trans ?_
    refine (readPositions_optional (readOption_size size) _ _).trans ?_
    refine (readPositions_optional (readOption_strings values) _ _).trans ?_
    exact readPositions_optional (readOption_readFilter h) _ _
  | intervals values =>
    refine record?_inOrder rangeFields (by decide) rfl ?_
    refine (readPositions_optional (readOption_text id) _ _).trans ?_
    refine (readPositions_optional (readText_string name) _ _).trans ?_
    refine (readPositions_optional (readList_array fun v _ => v.read_toJson) _ _).trans ?_
    exact readPositions_optional (readOption_readFilter h) _ _

theorem read_raw_eq_ok_iff {v : Json} {f : Facet} : read v.raw = .ok f ↔ ofJson? v = some f := by
  rw [read, whole_raw]
  cases hread : ofJson? v <;> simp [hread, bind, Except.bind, pure, Except.pure]

end Facet

/-! ### Requests -/

/-- The coordinates of the location are finite numbers. -/
def SortField.IsFinite (s : SortField) : Prop := ∀ p ∈ s.location, p.IsFinite

theorem SortField.read_toJson {s : SortField} (h : s.IsFinite) : read s.toJson.raw = .ok s := by
  have hlocation : readOption GeoPoint.read (orNull GeoPoint.toJson s.location).raw =
      .ok s.location :=
    readOption_orNull fun p hp => ⟨nofun, GeoPoint.read_toJson (h p hp)⟩
  rw [toJson, read, readRecord_inOrder (by decide) rfl]
  refine (readPositions_optional (readText_string s.fieldName) _ _).trans ?_
  refine (readPositions_optional (readBool_bool s.isDescending) _ _).trans ?_
  exact readPositions_optional hlocation _ _

namespace SearchRequest

/-- All coordinates and distances in a request are finite numbers. -/
structure IsFinite (r : SearchRequest) : Prop where
  filter : ∀ f ∈ r.filter, f.IsFinite
  sorting : ∀ s ∈ r.sorting, s.IsFinite
  facets : ∀ f ∈ r.facets, f.IsFinite

/-- **Requests are read back.** -/
theorem read_toJson {r : SearchRequest} (h : r.IsFinite) : read r.toJson.raw = .ok r := by
  have hfuzziness : readOption readUInt32
      (orNull (fun n : UInt32 => .nat n.toNat) r.fuzziness).raw = .ok r.fuzziness :=
    readOption_orNull fun n _ => ⟨nofun, readUInt32_nat n⟩
  have hfilter : readOption Filter.read (orNull Filter.toJson r.filter).raw = .ok r.filter :=
    readOption_orNull fun f hf => ⟨f.toJson_ne_null, Filter.read_toJson (h.filter f hf)⟩
  have hsorting : readList SortField.read (Json.array (r.sorting.map SortField.toJson)).raw =
      .ok r.sorting :=
    readList_array fun s hs => SortField.read_toJson (h.sorting s hs)
  have hfacets : readList Facet.read (Json.array (r.facets.map Facet.toJson)).raw = .ok r.facets :=
    readList_array fun f hf => Facet.read_raw_eq_ok_iff.mpr (Facet.ofJson?_toJson (h.facets f hf))
  rw [toJson, read, readRecord_inOrder (by decide) rfl]
  refine (readPositions_optional (readOption_text r.keywords) _ _).trans ?_
  refine (readPositions_optional (readOption_strings r.searchFields) _ _).trans ?_
  refine (readPositions_optional (readBool_bool r.isFuzzy) _ _).trans ?_
  refine (readPositions_optional hfuzziness _ _).trans ?_
  refine (readPositions_optional hfilter _ _).trans ?_
  refine (readPositions_optional hsorting _ _).trans ?_
  refine (readPositions_optional (readInt64_int r.skip) _ _).trans ?_
  refine (readPositions_optional (readInt64_int r.take) _ _).trans ?_
  refine (readPositions_optional hfacets _ _).trans ?_
  exact readPositions_optional (readOption_strings r.includeFields) _ _

end SearchRequest

/-! ### Responses -/

theorem FacetCount.read_toJson (c : FacetCount) : read c.toJson.raw = .ok c := by
  rw [toJson, read, readRecord_inOrder (by decide) rfl]
  refine (readPositions_optional (readText_string c.id) _ _).trans ?_
  exact readPositions_optional (readUInt64_nat c.count) _ _

theorem FacetResult.read_toJson (f : FacetResult) : read f.toJson.raw = .ok f := by
  rw [toJson, read, readRecord_inOrder (by decide) rfl]
  refine (readPositions_optional (readText_string f.id) _ _).trans ?_
  exact readPositions_optional (readList_array fun c _ => c.read_toJson) _ _

namespace FieldValue

mutual

/-- A field value whose objects repeat no key is read back. -/
theorem ofJson_toJson : (x : FieldValue) → x.toJson.keysDistinct → ofJson x.toJson = x
  | .null, _ | .bool _, _ | .number _, _ | .string _, _ => rfl
  | .list items, h => by rw [toJson, ofJson, ofItems_toItems items h]
  | .object entries, h => by
    obtain ⟨hkeys, hentries⟩ := keysDistinct_object.mp h
    rw [toEntries_eq_mapValues, Table.keys_mapValues] at hkeys
    rw [toJson, ofJson, ofObject_toEntries entries hentries, Table.ofEntries_of_nodup hkeys]

theorem ofItems_toItems : (items : List FieldValue) → itemsDistinct (toItems items) →
    ofItems (toItems items) = items
  | [], _ => rfl
  | x :: rest, h => by
    obtain ⟨hx, hrest⟩ := Bool.and_eq_true_iff.mp h
    rw [toItems, ofItems, ofJson_toJson x hx, ofItems_toItems rest hrest]

theorem ofObject_toEntries : (entries : List (String × FieldValue)) →
    entriesDistinct (toEntries entries) → ofObject (toEntries entries) = entries
  | [], _ => rfl
  | (key, x) :: rest, h => by
    obtain ⟨hx, hrest⟩ := Bool.and_eq_true_iff.mp h
    rw [toEntries, ofObject, ofJson_toJson x hx, ofObject_toEntries rest hrest]

end

theorem ofObject_eq_mapValues (entries : List (String × Json)) :
    ofObject entries = Table.mapValues ofJson entries := by
  induction entries with
  | nil => rfl
  | cons e rest ih => rw [ofObject, ih, Table.mapValues_cons]

/-- A table of field values whose objects repeat no key is read back in order. -/
theorem readTable_toEntries {fields : Table FieldValue}
    (h : (Json.object (toEntries fields)).keysDistinct) :
    readTable FieldValue.read (Json.object (toEntries fields)).raw = .ok fields := by
  obtain ⟨hkeys, hentries⟩ := keysDistinct_object.mp h
  rw [readTable_raw hkeys fun e _ => FieldValue.read_raw e.2, ← ofObject_eq_mapValues,
    ofObject_toEntries fields hentries]

end FieldValue

namespace Document

/-- The score is a finite number. -/
def IsFinite (d : Document) : Prop := ∀ score ∈ d.relevanceScore, ∃ x, score = .finite x

/-- The fields have distinct names, and no object in them repeats a key. -/
def HasDistinctKeys (d : Document) : Prop :=
  (Json.object (FieldValue.toEntries d.fields)).keysDistinct

theorem read_toJson {d : Document} (h : d.IsFinite) (hkeys : d.HasDistinctKeys) :
    read d.toJson.raw = .ok d := by
  have hscore : readOption readDouble (orNull .double d.relevanceScore).raw =
      .ok d.relevanceScore := by
    refine readOption_orNull fun score hmem => ?_
    obtain ⟨x, rfl⟩ := h score hmem
    exact ⟨nofun, readDouble_double x⟩
  rw [toJson, read, readRecord_inOrder (by decide) rfl]
  refine (readPositions_optional (readText_string d.id) _ _).trans ?_
  refine (readPositions_optional (FieldValue.readTable_toEntries hkeys) _ _).trans ?_
  exact readPositions_optional hscore _ _

end Document

namespace SearchResponse

/-- All scores are finite numbers. -/
def IsFinite (r : SearchResponse) : Prop := ∀ d ∈ r.documents, d.IsFinite

/-- No object in the fields of a document repeats a key. -/
def HasDistinctKeys (r : SearchResponse) : Prop := ∀ d ∈ r.documents, d.HasDistinctKeys

/-- **Responses are read back.** -/
theorem read_toJson {r : SearchResponse} (h : r.IsFinite) (hkeys : r.HasDistinctKeys) :
    read r.toJson.raw = .ok r := by
  have hdocuments : readList Document.read (Json.array (r.documents.map Document.toJson)).raw =
      .ok r.documents :=
    readList_array fun d hd => Document.read_toJson (h d hd) (hkeys d hd)
  rw [toJson, read, readRecord_inOrder (by decide) rfl]
  refine (readPositions_optional (readUInt64_nat r.totalCount) _ _).trans ?_
  refine (readPositions_optional hdocuments _ _).trans ?_
  exact readPositions_optional (readList_array fun f _ => f.read_toJson) _ _

end SearchResponse

end SearchBridge
