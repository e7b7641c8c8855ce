import SearchBridge.Proofs.Json.Values
import SearchBridge.Result.Aggregate

/-!
# Counts by shape

What kind of counts a value holds is told by its shape alone. A value with a count of documents is a
single bucket, in which the aggregations below it are found under their names; a list of buckets
without a count of its own is a list of buckets, read one by one.

## Main definitions

* `Json.docCount?` : the count of documents that a value tells.
* `Json.IsBucketList` : a list of buckets in the engine's shape.

## Main results

* `Aggregate.ofJson_of_docCount?`, `Aggregate.ofJson_of_buckets` : how a value is classified.
* `Aggregate.get?_nested_eq_none`, `Aggregate.get?_nested_of_isObject` : what is found below a
  single bucket.
-/

namespace SearchBridge

/-! ### Shapes of counts -/

namespace Json

/-- The count of documents that an object tells. -/
def docCount? (v : Json) : Option UInt64 := (v.get? "doc_count").bind word?

/-- An object with a key and a count of documents. -/
structure IsBucket (v : Json) : Prop where
  key : (v.get? "key").isSome
  count : v.docCount?.isSome

/-- An object with an array of buckets and without a count of its own. -/
structure IsBucketList (v : Json) : Prop where
  noCount : v.get? "doc_count" = none
  buckets : ∃ items, v.get? "buckets" = some (.array items) ∧ ∀ b ∈ items, b.IsBucket

/-- Only an object has values under keys. -/
theorem exists_entries_of_get? {v w : Json} {key : String} (h : v.get? key = some w) :
    ∃ entries, v = .object entries ∧ Table.get? entries key = some w := by
  cases v with
  | object entries => exact ⟨entries, rfl, h⟩
  | _ => cases h

theorem IsBucketList.docCount?_eq_none {v : Json} (h : v.IsBucketList) : v.docCount? = none := by
  rw [docCount?, h.noCount]
  rfl

theorem IsBucketList.isObject {v : Json} (h : v.IsBucketList) : v.isObject := by
  obtain ⟨items, hitems, _⟩ := h.buckets
  obtain ⟨entries, rfl, _⟩ := exists_entries_of_get? hitems
  rfl

end Json

/-! ### Classification -/

namespace Aggregate

/-- The names of the aggregations below a single bucket are keys of its entries. -/
theorem keys_nestedIn_sublist (entries : List (String × Json)) :
    (Table.keys (nestedIn entries)).Sublist (Table.keys entries) := by
  induction entries with
  | nil => exact List.Sublist.slnil
  | cons e rest ih =>
    obtain ⟨name, v⟩ := e
    rw [nestedIn]
    split
    · exact ih.cons_cons name
    · exact ih.cons name

/-- An entry that is an object is an aggregation below a single bucket. -/
theorem mem_nestedIn {key : String} {v : Json} (hv : v.isObject) :
    {entries : List (String × Json)} → (key, v) ∈ entries → (key, ofJson v) ∈ nestedIn entries
  | [], h => absurd h List.not_mem_nil
  | (name, w) :: rest, h => by
    rw [nestedIn]
    rcases List.mem_cons.mp h with heq | h
    · obtain ⟨rfl, rfl⟩ := Prod.mk.inj heq
      rw [if_pos hv]
      exact List.mem_cons_self
    · have ih := mem_nestedIn hv h
      split
      · exact List.mem_cons_of_mem _ ih
      · exact ih

section Nested

variable {entries : List (String × Json)} {key : String}

/-- Without an entry under a key there is no aggregation under it below a single bucket. -/
theorem get?_nested_eq_none (hkeys : (Table.keys entries).Nodup)
    (h : Table.get? entries key = none) :
    Table.get? (Table.ofEntries (nestedIn entries)) key = none := by
  have hsub := keys_nestedIn_sublist entries
  rw [Table.ofEntries_of_nodup (hkeys.sublist hsub), Table.get?_eq_none_iff]
  exact fun hmem => Table.get?_eq_none_iff.mp h (hsub.subset hmem)

/-- An object under a key is read as an aggregation under it below a single bucket. -/
theorem get?_nested_of_isObject (hkeys : (Table.keys entries).Nodup) {v : Json}
    (h : Table.get? entries key = some v) (hv : v.isObject) :
    Table.get? (Table.ofEntries (nestedIn entries)) key = some (ofJson v) := by
  have hnested : (Table.keys (nestedIn entries)).Nodup :=
    hkeys.sublist (keys_nestedIn_sublist entries)
  rw [Table.ofEntries_of_nodup hnested, Table.get?_eq_some_iff hnested]
  exact mem_nestedIn hv ((Table.get?_eq_some_iff hkeys).mp h)

end Nested

/-- A value that tells a count of documents is a single bucket. -/
theorem ofJson_of_docCount? {entries : List (String × Json)} {docCount : UInt64}
    (h : (Json.object entries).docCount? = some docCount) :
    ofJson (.object entries) = .single docCount (Table.ofEntries (nestedIn entries)) := by
  have h : (Table.get? entries "doc_count").bind Json.word? = some docCount := h
  rw [ofJson, h]

/-- A value with buckets that tells no count of documents is a list of buckets. -/
theorem ofJson_of_buckets {v listed : Json} (hcount : v.docCount? = none)
    (h : v.get? "buckets" = some listed) : ofJson v = .buckets (Bucket.listOf listed) := by
  obtain ⟨entries, rfl, hbuckets⟩ := Json.exists_entries_of_get? h
  have hcount : (Table.get? entries "doc_count").bind Json.word? = none := hcount
  rw [ofJson, hcount, hbuckets]

end Aggregate

end SearchBridge
