import SearchBridge.Proofs.Json.Records
import SearchBridge.Proofs.Json.Values
import SearchBridge.Result.Basic

/-!
# Reading results

The aggregations of a result are read independently of its other parts: they can be any object, and
they have no influence on how the total and the hits are read.

## Main definitions

* `SearchResult.aggregatesOf` : the aggregations that an object is read as.

## Main results

* `SearchResult.read_of_aggregations`, `SearchResult.ofJson_eq_map_without` : a result with
  aggregations is the result without them, to which they are added; if the one cannot be read,
  neither can the other.
-/

namespace SearchBridge

namespace SearchResult

open Json Json.Raw

/-- The aggregations that the entries of an object are read as: repeated keys are merged at every
depth, and what is under a key is classified by shape. -/
def aggregatesOf (aggs : List (String × Json)) : Table Aggregate :=
  Table.ofEntries (Table.mapValues (fun v => Aggregate.ofJson v.merged) aggs)

/-- The counts of one aggregation are read from any value. -/
theorem readAggregate_raw (v : Json) : readAggregate v.raw = .ok (Aggregate.ofJson v.merged) := by
  rw [readAggregate, value, whole_raw]
  rfl

/-- Aggregations are read from any object. -/
theorem readTable_readAggregate (aggs : List (String × Json)) :
    readTable readAggregate (Json.object aggs).raw = .ok (aggregatesOf aggs) := by
  have hmembers : Raw.readMembers readAggregate (rawEntries aggs) =
      .ok (Table.mapValues (fun v => Aggregate.ofJson v.merged) aggs) :=
    readMembers_rawEntries aggs fun e _ => readAggregate_raw e.2
  rw [raw, readTable, hmembers]
  rfl

/-- If no key is repeated, the aggregations are the classified values in their order. -/
theorem aggregatesOf_of_keysDistinct {aggs : List (String × Json)}
    (h : (Json.object aggs).keysDistinct) :
    aggregatesOf aggs = Table.mapValues Aggregate.ofJson aggs := by
  obtain ⟨hkeys, hentries⟩ := keysDistinct_object.mp h
  have hvalues : Table.mapValues (fun v => Aggregate.ofJson v.merged) aggs =
      Table.mapValues Aggregate.ofJson aggs := by
    refine List.map_congr_left fun e he => ?_
    dsimp only
    rw [merged_of_keysDistinct e.2 (keysDistinct_of_mem hentries he)]
  rw [aggregatesOf, hvalues, Table.ofEntries_of_nodup]
  rw [Table.keys_mapValues]
  exact hkeys

/-- Setting the aggregations does not interfere with reading the other fields of a result. -/
theorem independent_aggregations {r : Raw} {t : Table Aggregate}
    (h : readTable readAggregate r = .ok t) :
    Independent fields "aggregations" r fun x => { x with aggregations := t } where
  found := by
    refine ⟨_, rfl, ?_⟩
    show (readTable readAggregate r).map _ = _
    rw [h]
    rfl
  optional := by
    intro f hf _
    revert f
    simp [fields, RecordField.optional]
  commutes := by
    intro f hf hname r w hw x
    simp only [fields, List.mem_cons, List.not_mem_nil, or_false] at hf
    rcases hf with rfl | rfl | rfl | rfl
    · obtain ⟨took, _, rfl⟩ := RecordField.exists_of_update_optional hw
      rfl
    · obtain ⟨timedOut, _, rfl⟩ := RecordField.exists_of_update_optional hw
      rfl
    · obtain ⟨page, _, rfl⟩ := RecordField.exists_of_update_optional hw
      rfl
    · exact absurd rfl hname

/-- An object is read member by member, starting at the empty result. -/
private theorem ofJson_object (entries : List (String × Json)) :
    ofJson (.object entries) = readFields fields (rawEntries entries) [] {} := rfl

/-- The members of an object's tree bear the object's keys. -/
private theorem some_mem_names_iff {entries : List (String × Json)} {key : String} :
    some key ∈ (rawEntries entries).map Prod.fst ↔ key ∈ Table.keys entries := by
  rw [rawEntries_eq_map, List.map_map, Table.keys, List.mem_map, List.mem_map]
  exact exists_congr fun e => and_congr_right fun _ => Option.some_inj

/-- No object among the aggregations repeats a key if no object of the result does. -/
theorem keysDistinct_aggregations {entries aggs : List (String × Json)}
    (hdistinct : (Json.object entries).keysDistinct)
    (haggs : (Table.get? entries "aggregations").getD (.object []) = .object aggs) :
    (Json.object aggs).keysDistinct := by
  obtain ⟨hkeys, hentries⟩ := keysDistinct_object.mp hdistinct
  rw [← haggs]
  cases hget : Table.get? entries "aggregations" with
  | none => rfl
  | some v => exact keysDistinct_of_mem hentries ((Table.get?_eq_some_iff hkeys).mp hget)

/-- **Reading a result with aggregations.** A text's object with aggregations is read as the object
without them, to which they are added. -/
theorem read_of_aggregations {before after : List (Option String × Raw)}
    (hbefore : some "aggregations" ∉ before.map Prod.fst)
    (hafter : some "aggregations" ∉ after.map Prod.fst) (aggs : List (String × Json)) :
    read (.object (before ++ (some "aggregations", (Json.object aggs).raw) :: after)) =
      (read (.object (before ++ after))).map
        fun r => { r with aggregations := aggregatesOf aggs } :=
  readFields_insert (independent_aggregations (readTable_readAggregate aggs)) before after [] {}
    List.not_mem_nil hbefore hafter

/-- An object with aggregations, or without any, is read as its other entries, to which the
aggregations are added. -/
theorem ofJson_eq_map_without {entries aggs : List (String × Json)}
    (hkeys : (Table.keys entries).Nodup)
    (haggs : (Table.get? entries "aggregations").getD (.object []) = .object aggs) :
    ofJson (.object entries) = (ofJson (.object (Table.without entries "aggregations"))).map
      fun r => { r with aggregations := aggregatesOf aggs } := by
  cases hget : Table.get? entries "aggregations" with
  | none =>
    rw [hget] at haggs
    cases haggs
    have hnew := Table.get?_eq_none_iff.mp hget
    -- Setting the aggregations to none changes nothing, neither before the reading nor after it.
    rw [Table.without_of_notMem hnew, ofJson_object]
    exact readFields_of_update_eq (independent_aggregations (readTable_readAggregate [])) {} rfl
      (mt some_mem_names_iff.mp hnew)
  | some v =>
    rw [hget] at haggs
    have hv : v = .object aggs := haggs
    subst hv
    obtain ⟨s, s', rfl, hs, hs', hwithout⟩ := Table.exists_append_of_get? hkeys hget
    rw [hwithout, ofJson_object, ofJson_object, rawEntries_append, rawEntries_append, rawEntries]
    exact read_of_aggregations (mt some_mem_names_iff.mp hs) (mt some_mem_names_iff.mp hs') aggs

/-- A result is read from an object with aggregations, or without any, if it is read from the
object's other entries, and its aggregations are those that the object holds. -/
theorem ofJson_of_aggregations {entries aggs : List (String × Json)} {base : SearchResult}
    (hdistinct : (Json.object entries).keysDistinct)
    (haggs : (Table.get? entries "aggregations").getD (.object []) = .object aggs)
    (hbase : ofJson (.object (Table.without entries "aggregations")) = .ok base) :
    ofJson (.object entries) =
      .ok { base with aggregations := Table.mapValues Aggregate.ofJson aggs } := by
  rw [ofJson_eq_map_without (keysDistinct_object.mp hdistinct).1 haggs, hbase,
    ← aggregatesOf_of_keysDistinct (keysDistinct_aggregations hdistinct haggs)]
  rfl

end SearchResult

end SearchBridge
