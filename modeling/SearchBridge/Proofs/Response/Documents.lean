import SearchBridge.Proofs.Json.Records
import SearchBridge.Proofs.Json.Values
import SearchBridge.Response.Lifting

/-!
# Documents of a response

A hit's object becomes the fields of a document value by value. Two readings of JSON as a field
value are compared: one goes through the value by its kind, the other tries the kinds in turn until
one fits. They agree on every value, and writing the field value gives the value back, with its
numbers and the order of its keys, except that keys are merged if an object repeats them. Objects
that come out of a reading never do, so the documents of a response show exactly what the hits hold.

## Main definitions

* `Hit.content` : the object that a hit holds.
* `SearchResult.HasDistinctKeys` : no object of a hit repeats a key.

## Main results

* `FieldValue.read_raw`, `FieldValue.toJson_ofJson` : the two readings agree, and writing undoes
  them.
* `SearchResult.hasDistinctKeys_of_read` : a result that was read has no repeated keys.
* `SearchResponse.documents_of_hits` : the documents of a response.
-/

namespace SearchBridge

/-! ### Field values -/

namespace Table

variable {α β : Type}

theorem mapValues_put (f : α → β) (t : Table α) (key : String) (value : α) :
    mapValues f (t.put key value) = (mapValues f t).put key (f value) := by
  induction t with
  | nil => rfl
  | cons e t ih =>
    obtain ⟨k, v⟩ := e
    rw [put, mapValues_cons, put]
    split
    · rfl
    · rw [mapValues_cons, ih]

/-- Mapping the values of entries commutes with writing the entries. -/
theorem mapValues_ofEntries (f : α → β) (entries : List (String × α)) :
    mapValues f (ofEntries entries) = ofEntries (mapValues f entries) := by
  rw [ofEntries, ofEntries, mapValues, mapValues, List.foldl_map]
  exact (List.foldl_hom (mapValues f) fun t e => (mapValues_put f t e.1 e.2).symm).symm

end Table

namespace FieldValue

open Json

theorem toEntries_eq_mapValues : (entries : List (String × FieldValue)) →
    toEntries entries = Table.mapValues toJson entries
  | [] => rfl
  | (_, _) :: rest => by rw [toEntries, toEntries_eq_mapValues rest, Table.mapValues_cons]

mutual

/-- Trying the kinds in turn finds the field value of every JSON value. -/
theorem decode?_eq_ofJson : (v : Json) → decode? v = some (ofJson v)
  | .null | .bool _ | .number _ | .string _ => rfl
  | .array items => by
    rw [decode?, decodeItems?_eq_ofItems items, ofJson]
    rfl
  | .object entries => by
    rw [decode?, decodeEntries?_eq_ofObject entries, ofJson]
    rfl

theorem decodeItems?_eq_ofItems : (items : List Json) → decodeItems? items = some (ofItems items)
  | [] => rfl
  | v :: rest => by
    rw [decodeItems?, decode?_eq_ofJson v, decodeItems?_eq_ofItems rest, ofItems]
    rfl

theorem decodeEntries?_eq_ofObject : (entries : List (String × Json)) →
    decodeEntries? entries = some (ofObject entries)
  | [] => rfl
  | (k, v) :: rest => by
    rw [decodeEntries?, decode?_eq_ofJson v, decodeEntries?_eq_ofObject rest, ofObject]
    rfl

end

/-- Every JSON value is read as its field value. -/
theorem read_raw (v : Json) : read v.raw = .ok (ofJson v) := by
  rw [read, whole_raw v]
  simp only [bind, Except.bind, decode?_eq_ofJson v]
  rfl

mutual

/-- The field value of a JSON value is written as the value with its keys merged. -/
theorem toJson_ofJson : (v : Json) → (ofJson v).toJson = v.merged
  | .null | .bool _ | .number _ | .string _ => rfl
  | .array items => by rw [ofJson, toJson, toItems_ofItems items, merged]
  | .object entries => by
    rw [ofJson, toJson, toEntries_eq_mapValues, Table.mapValues_ofEntries,
      ← toEntries_eq_mapValues, toEntries_ofObject entries, merged]

theorem toItems_ofItems : (items : List Json) → toItems (ofItems items) = mergedItems items
  | [] => rfl
  | v :: rest => by rw [ofItems, toItems, toJson_ofJson v, toItems_ofItems rest, mergedItems]

theorem toEntries_ofObject : (entries : List (String × Json)) →
    toEntries (ofObject entries) = mergedEntries entries
  | [] => rfl
  | (k, v) :: rest => by
    rw [ofObject, toEntries, toJson_ofJson v, toEntries_ofObject rest, mergedEntries]

end

end FieldValue

/-! ### Hits -/

section Hits

open Json Json.Raw

/-- The object that a hit holds: its source if there is one, be it empty, or else its selected
fields, or else no entries. -/
def Hit.content (h : Hit) : Json :=
  match h.source, h.fields with
  | some source, _ => .object source
  | none, some fields => .object fields
  | none, none => .object []

/-- The document of a hit is written with the hit's object. -/
theorem Hit.toEntries_document {h : Hit} (hkeys : h.content.keysDistinct) :
    .object (FieldValue.toEntries h.document.fields) = h.content := by
  have hobject (entries : List (String × Json)) : Json.object (FieldValue.toEntries
      (Table.ofEntries (FieldValue.ofObject entries))) = (Json.object entries).merged := by
    rw [← FieldValue.toJson_ofJson, FieldValue.ofJson, FieldValue.toJson]
  rw [← merged_of_keysDistinct _ hkeys, document, hobject, content]
  cases h.source <;> cases h.fields <;> rfl

/-- Neither the source nor the selected fields of a hit repeat a key. -/
structure Hit.HasDistinctKeys (h : Hit) : Prop where
  source : ∀ s ∈ h.source, (Json.object s).keysDistinct
  fields : ∀ s ∈ h.fields, (Json.object s).keysDistinct

theorem Hit.HasDistinctKeys.content {h : Hit} (hkeys : h.HasDistinctKeys) :
    h.content.keysDistinct := by
  obtain ⟨index, id, score, source, fields⟩ := h
  cases source with
  | some s => exact hkeys.source s rfl
  | none =>
    cases fields with
    | some s => exact hkeys.fields s rfl
    | none => rfl

/-- No object of a result's hits repeats a key. -/
def SearchResult.HasDistinctKeys (r : SearchResult) : Prop :=
  ∀ h ∈ r.page.hits, h.HasDistinctKeys

/-- An optional table of values that was read repeats no key. -/
private theorem keysDistinct_of_readOption {r : Raw} {t? : Option (Table Json)}
    (h : readOption (readTable Raw.value) r = .ok t?) :
    ∀ t ∈ t?, (Json.object t).keysDistinct := by
  intro t ht
  cases r with
  | null =>
    rw [← Except.ok.inj h] at ht
    cases ht
  | object members =>
    have h : (readTable Raw.value (.object members)).map some = .ok t? := h
    cases htable : readTable Raw.value (.object members) with
    | error e =>
      rw [htable] at h
      cases h
    | ok t' =>
      rw [htable] at h
      rw [← Except.ok.inj h] at ht
      rw [← Option.some.inj ht]
      exact keysDistinct_of_readTable htable
  | _ => cases h

/-- A hit that was read repeats no key. -/
theorem Hit.hasDistinctKeys_of_read {r : Raw} {h : Hit} (hread : Hit.read r = .ok h) :
    h.HasDistinctKeys := by
  have hempty : Hit.HasDistinctKeys {} := ⟨by rintro _ ⟨⟩, by rintro _ ⟨⟩⟩
  refine readRecord_invariant (P := Hit.HasDistinctKeys) ?_ hempty hread
  intro f hf r w hw x hx
  simp only [jsonFields, List.mem_cons, List.not_mem_nil, or_false] at hf
  rcases hf with rfl | rfl | rfl | rfl | rfl
  · obtain ⟨index, _, rfl⟩ := RecordField.exists_of_update_optional hw
    exact ⟨hx.source, hx.fields⟩
  · obtain ⟨id, _, rfl⟩ := RecordField.exists_of_update_mandatory hw
    exact ⟨hx.source, hx.fields⟩
  · obtain ⟨score, _, rfl⟩ := RecordField.exists_of_update_optional hw
    exact ⟨hx.source, hx.fields⟩
  · obtain ⟨source, hsource, rfl⟩ := RecordField.exists_of_update_optional hw
    exact ⟨keysDistinct_of_readOption hsource, hx.fields⟩
  · obtain ⟨fields, hfields, rfl⟩ := RecordField.exists_of_update_optional hw
    exact ⟨hx.source, keysDistinct_of_readOption hfields⟩

theorem HitPage.hasDistinctKeys_of_read {r : Raw} {p : HitPage} (hread : HitPage.read r = .ok p) :
    ∀ h ∈ p.hits, h.HasDistinctKeys := by
  refine readRecord_invariant (P := fun p : HitPage => ∀ h ∈ p.hits, h.HasDistinctKeys) ?_
    (fun _ h => absurd h List.not_mem_nil) hread
  intro f hf r w hw x hx
  simp only [fields, List.mem_cons, List.not_mem_nil, or_false] at hf
  rcases hf with rfl | rfl | rfl
  · obtain ⟨total, _, rfl⟩ := RecordField.exists_of_update_optional hw
    exact hx
  · obtain ⟨maxScore, _, rfl⟩ := RecordField.exists_of_update_optional hw
    exact hx
  · obtain ⟨hits, hhits, rfl⟩ := RecordField.exists_of_update_optional hw
    intro h hh
    obtain ⟨r', hr'⟩ := exists_of_mem_readList hhits h hh
    exact Hit.hasDistinctKeys_of_read hr'

/-- A result that was read repeats no key in its hits, whatever was written. -/
theorem SearchResult.hasDistinctKeys_of_read {r : Raw} {result : SearchResult}
    (hread : SearchResult.read r = .ok result) : result.HasDistinctKeys := by
  refine readRecord_invariant (P := SearchResult.HasDistinctKeys) ?_
    (fun _ h => absurd h List.not_mem_nil) hread
  intro f hf r w hw x hx
  simp only [fields, List.mem_cons, List.not_mem_nil, or_false] at hf
  rcases hf with rfl | rfl | rfl | rfl
  · obtain ⟨took, _, rfl⟩ := RecordField.exists_of_update_optional hw
    exact hx
  · obtain ⟨timedOut, _, rfl⟩ := RecordField.exists_of_update_optional hw
    exact hx
  · obtain ⟨page, hpage, rfl⟩ := RecordField.exists_of_update_optional hw
    exact HitPage.hasDistinctKeys_of_read hpage
  · obtain ⟨aggregations, _, rfl⟩ := RecordField.exists_of_update_optional hw
    exact hx

end Hits

/-! ### Responses -/

/-- The total and the documents of a response to matching documents. -/
theorem SearchResponse.page_ofResult {r : SearchResult} (h : r.total ≠ 0)
    (request : Option SearchRequest) : (SearchResponse.ofResult r request).totalCount = r.total ∧
      (SearchResponse.ofResult r request).documents = r.page.hits.map Hit.document := by
  rw [ofResult, SearchResult.toResponse, if_neg h]
  exact ⟨rfl, rfl⟩

/-- **Lifting documents loses nothing.** Every JSON value is read as its field value, which is
written as the value itself, keys in order, unless an object in it repeats a key. So a response to
matching documents tells the engine's total and has one document for each hit in the order of the
hits, with the hit's identifier and score, and with fields that are written as the hit's object. No
object of a result that was read repeats a key. -/
theorem SearchResponse.documents_of_hits :
    (∀ v : Json, FieldValue.read v.raw = .ok (FieldValue.ofJson v) ∧
      (v.keysDistinct → (FieldValue.ofJson v).toJson = v)) ∧
    (∀ (text : Json.Raw) (r : SearchResult), SearchResult.read text = .ok r → r.HasDistinctKeys) ∧
    ∀ (r : SearchResult) (request : Option SearchRequest), r.total ≠ 0 → r.HasDistinctKeys →
      (SearchResponse.ofResult r request).totalCount = r.total ∧
      (SearchResponse.ofResult r request).documents.map (fun d =>
          (d.id, d.relevanceScore, Json.object (FieldValue.toEntries d.fields))) =
        r.page.hits.map fun h => (h.id, h.score, h.content) := by
  refine ⟨fun v => ⟨FieldValue.read_raw v, fun hv => ?_⟩,
    fun _ _ => SearchResult.hasDistinctKeys_of_read, fun r request htotal hkeys => ?_⟩
  · rw [FieldValue.toJson_ofJson, Json.merged_of_keysDistinct v hv]
  · obtain ⟨hcount, hdocuments⟩ := page_ofResult htotal request
    refine ⟨hcount, ?_⟩
    rw [hdocuments, List.map_map]
    refine List.map_congr_left fun h hh => ?_
    rw [Function.comp_apply, Hit.toEntries_document (hkeys h hh).content]
    rfl

/-- An empty source hides the selected fields, and the order of keys is kept below lists. -/
theorem SearchResponse.documents_of_hits_without_source :
    let v : Json := .object [("b", .array [.object [("z", .null), ("a", .int (-1))]]),
      ("a", .object [])]
    let text : Json := .object [("hits", .object [
      ("hits", .array [
        .object [("_source", .object []), ("_id", .string "1"),
          ("fields", .object [("name", .null)])],
        .object [("_id", .string "2"), ("fields", .object [("v", v), ("name", .string "shoe")])]]),
      ("total", .int 7)])]
    ∃ r : SearchResult, v.keysDistinct ∧ (FieldValue.ofJson v).toJson = v ∧
      SearchResult.read text.raw = .ok r ∧ r.total ≠ 0 ∧ r.HasDistinctKeys ∧
      (SearchResponse.ofResult r none).totalCount = 7 ∧
      (SearchResponse.ofResult r none).documents.map (fun d =>
          (d.id, d.relevanceScore, Json.object (FieldValue.toEntries d.fields))) =
        [("1", none, Json.object []),
          ("2", none, .object [("v", v), ("name", .string "shoe")])] := by
  intro v text
  let r : SearchResult := {
    page := {
      total := some (.count 7)
      hits := [{ id := "1", source := some [], fields := some [("name", .null)] },
        { id := "2", fields := some [("v", v), ("name", .string "shoe")] }] } }
  obtain ⟨hvalues, hread, hresponse⟩ := SearchResponse.documents_of_hits
  have hv : v.keysDistinct := by decide
  have hr : SearchResult.read text.raw = .ok r := by rfl
  have htotal : r.total ≠ 0 := by decide
  have hkeys : r.HasDistinctKeys := hread text.raw r hr
  obtain ⟨hcount, hdocuments⟩ := hresponse r none htotal hkeys
  exact ⟨r, hv, (hvalues v).2 hv, hr, htotal, hkeys, hcount, hdocuments⟩

end SearchBridge
