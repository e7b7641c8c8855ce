import SearchBridge.Proofs.Result.Aggregate

/-!
# Trees of counts in JSON

The engine shows counts as a tree: a list of buckets is a leaf, and a single bucket has further
counts below it under names. Nothing in the JSON says which is which. A list of buckets is an object
with `buckets`, an array of objects or an object whose keys are those of the buckets; a single
bucket is an object with a count of documents, in which each object is the tree of its name. Names
are the caller's choice and may be the very words that tell the shapes apart, except for that of the
count itself. Whatever else the objects hold, and in whatever order, the tree is read back from its
JSON.

## Main definitions

* `Bucket.ShownIn` : the entries of an object tell about a bucket.
* `Json.Shows` : a value shows a tree of counts.
* `Aggregate.IsTree` : the counts that are a tree, and `Aggregate.toJson` its plainest JSON.

## Main results

* `Bucket.listOf_array_of_shown`, `Bucket.listOf_object_of_shown` : both ways to list buckets.
* `Aggregate.ofJson_of_shows` : what a value shows is read from it.
* `Aggregate.trees_recovered` : every tree is shown by some value, and read from each.
-/

namespace SearchBridge

/-! ### Buckets -/

/-- A word is read from its number. -/
theorem Json.word?_nat (n : UInt64) : (Json.nat n.toNat).word? = some n := by
  have hrange : (0 : Int) ≤ n.toNat ∧ (n.toNat : Int) < UInt64.size := by
    have := n.toNat_lt_size
    omega
  rw [nat, int, word?, if_pos hrange]
  exact congrArg some UInt64.ofNat_toNat

namespace Bucket

/-- The entries of an object tell the count of a bucket and the text of its key, if there is one;
further entries do not matter, nor does the order. -/
structure ShownIn (b : Bucket) (entries : List (String × Json)) : Prop where
  nodup : (Table.keys entries).Nodup
  count : ("doc_count", .nat b.docCount.toNat) ∈ entries
  text : ∀ s, b.keyText = some s → ("key_as_string", .string s) ∈ entries
  noText : b.keyText = none → "key_as_string" ∉ Table.keys entries

/-- An object that shows a bucket and its key. -/
inductive ShownByItem : Json → Bucket → Prop
  | mk {b : Bucket} {entries : List (String × Json)} (shown : b.ShownIn entries)
      (key : ("key", b.key) ∈ entries) : ShownByItem (.object entries) b

/-- An object that shows a bucket under its key, and does not repeat the key. -/
inductive ShownByEntry : String × Json → Bucket → Prop
  | mk {b : Bucket} {name : String} {entries : List (String × Json)} (shown : b.ShownIn entries)
      (key : b.key = .string name) (noKey : "key" ∉ Table.keys entries) :
      ShownByEntry (name, .object entries) b

/-- The plainest JSON of a bucket. -/
def toJson (b : Bucket) : Json :=
  .object ([("key", b.key)] ++ Json.whenSome "key_as_string" .string b.keyText ++
    [("doc_count", .nat b.docCount.toNat)])

/-- A bucket is shown by its plainest JSON. -/
theorem shownByItem_toJson (b : Bucket) : ShownByItem b.toJson b := by
  obtain ⟨key, keyText, docCount⟩ := b
  cases keyText with
  | none => exact .mk ⟨by simp [Json.whenSome], by simp, by simp, by simp [Json.whenSome]⟩ (by simp)
  | some s =>
    exact .mk ⟨by simp [Json.whenSome], by simp, by simp [Json.whenSome], by simp⟩ (by simp)

variable {b : Bucket} {entries : List (String × Json)}

theorem ShownIn.get?_docCount (h : b.ShownIn entries) :
    (Table.get? entries "doc_count").bind Json.word? = some b.docCount := by
  rw [(Table.get?_eq_some_iff h.nodup).mpr h.count, Option.bind_some, Json.word?_nat]

theorem ShownIn.get?_keyText (h : b.ShownIn entries) :
    (Table.get? entries "key_as_string").bind Json.text? = b.keyText := by
  cases htext : b.keyText with
  | none => rw [Table.get?_eq_none_iff.mpr (h.noText htext), Option.bind_none]
  | some s =>
    rw [(Table.get?_eq_some_iff h.nodup).mpr (h.text s htext)]
    rfl

/-- A bucket is read from an object that shows it with its key. -/
theorem ofObject?_of_shownByItem {v : Json} (h : ShownByItem v b) : ofObject? none v = some b := by
  obtain ⟨shown, hkey⟩ := h
  rw [ofObject?, (Table.get?_eq_some_iff shown.nodup).mpr hkey, shown.get?_docCount,
    shown.get?_keyText]
  rfl

/-- A bucket is read from an object that shows it under its key. -/
theorem ofObject?_of_shownByEntry {e : String × Json} (h : ShownByEntry e b) :
    ofObject? (some e.1) e.2 = some b := by
  obtain ⟨shown, hkey, hnoKey⟩ := h
  rw [ofObject?, Table.get?_eq_none_iff.mpr hnoKey, shown.get?_docCount, shown.get?_keyText]
  dsimp only [Option.map_some]
  rw [← hkey]
  rfl

/-- What is found item by item is listed in order. -/
theorem filterMap_eq_of_forall₂ {α β : Type*} {f : α → Option β} {xs : List α} {ys : List β}
    (h : List.Forall₂ (fun x y => f x = some y) xs ys) : xs.filterMap f = ys := by
  induction h with
  | nil => rfl
  | cons hx _ ih => rw [List.filterMap_cons_some hx, ih]

variable {buckets : List Bucket}

/-- Buckets are read from an array in order. -/
theorem listOf_array_of_shown {items : List Json} (h : List.Forall₂ ShownByItem items buckets) :
    listOf (.array items) = buckets :=
  filterMap_eq_of_forall₂ (h.imp fun _ _ => ofObject?_of_shownByItem)

/-- Buckets are read from the entries of an object in order. -/
theorem listOf_object_of_shown {named : List (String × Json)}
    (h : List.Forall₂ ShownByEntry named buckets) : listOf (.object named) = buckets :=
  filterMap_eq_of_forall₂ (h.imp fun _ _ => ofObject?_of_shownByEntry)

end Bucket

/-! ### Trees -/

namespace Json

mutual

/-- A value shows a tree of counts. -/
inductive Shows : Json → Aggregate → Prop
  /-- Buckets in an array. -/
  | items {entries : List (String × Json)} {items : List Json} {buckets : List Bucket}
      (nodup : (Table.keys entries).Nodup) (noCount : "doc_count" ∉ Table.keys entries)
      (listed : ("buckets", .array items) ∈ entries)
      (shown : List.Forall₂ Bucket.ShownByItem items buckets) :
      Shows (.object entries) (.buckets buckets)
  /-- Buckets in an object under their keys. -/
  | keyed {entries named : List (String × Json)} {buckets : List Bucket}
      (nodup : (Table.keys entries).Nodup) (noCount : "doc_count" ∉ Table.keys entries)
      (listed : ("buckets", .object named) ∈ entries)
      (shown : List.Forall₂ Bucket.ShownByEntry named buckets) :
      Shows (.object entries) (.buckets buckets)
  /-- A count of documents, and the counts below it. -/
  | single {entries : List (String × Json)} {docCount : UInt64}
      {nested : List (String × Aggregate)} (nodup : (Table.keys entries).Nodup)
      (count : ("doc_count", .nat docCount.toNat) ∈ entries) (below : ShowsBelow entries nested) :
      Shows (.object entries) (.single docCount nested)

/-- Among the entries of a single bucket, those that are objects show the counts below it under
their names and in their order. -/
inductive ShowsBelow : List (String × Json) → List (String × Aggregate) → Prop
  | nil : ShowsBelow [] []
  | pass {name : String} {v : Json} {rest : List (String × Json)}
      {nested : List (String × Aggregate)} (other : ¬v.isObject) (tail : ShowsBelow rest nested) :
      ShowsBelow ((name, v) :: rest) nested
  | cons {name : String} {v : Json} {a : Aggregate} {rest : List (String × Json)}
      {nested : List (String × Aggregate)} (head : v.Shows a) (tail : ShowsBelow rest nested) :
      ShowsBelow ((name, v) :: rest) ((name, a) :: nested)

end

theorem Shows.isObject {v : Json} {a : Aggregate} (h : v.Shows a) : v.isObject := by
  cases h <;> rfl

end Json

namespace Aggregate

open Json (Shows ShowsBelow)

mutual

/-- What a value shows is read from it. -/
theorem ofJson_of_shows : {v : Json} → {a : Aggregate} → v.Shows a → ofJson v = a
  | _, _, .items nodup noCount listed shown => by
    rw [ofJson, Table.get?_eq_none_iff.mpr noCount, (Table.get?_eq_some_iff nodup).mpr listed]
    dsimp only [Option.bind_none]
    rw [Bucket.listOf_array_of_shown shown]
  | _, _, .keyed nodup noCount listed shown => by
    rw [ofJson, Table.get?_eq_none_iff.mpr noCount, (Table.get?_eq_some_iff nodup).mpr listed]
    dsimp only [Option.bind_none]
    rw [Bucket.listOf_object_of_shown shown]
  | .object entries, .single _ nested, .single nodup count below => by
    have hnested := nestedIn_of_showsBelow below
    have hkeys : (Table.keys nested).Nodup := by
      rw [← hnested]
      exact nodup.sublist (keys_nestedIn_sublist entries)
    rw [ofJson, (Table.get?_eq_some_iff nodup).mpr count, Option.bind_some, Json.word?_nat]
    dsimp only
    rw [hnested, Table.ofEntries_of_nodup hkeys]

/-- What the entries of a single bucket show is read from them. -/
theorem nestedIn_of_showsBelow : {entries : List (String × Json)} →
    {nested : List (String × Aggregate)} → ShowsBelow entries nested → nestedIn entries = nested
  | _, _, .nil => rfl
  | _, _, .pass hv tail => by
    rw [nestedIn, if_neg hv, nestedIn_of_showsBelow tail]
  | _, _, .cons head tail => by
    rw [nestedIn, if_pos head.isObject, ofJson_of_shows head, nestedIn_of_showsBelow tail]

end

/-! ### Every tree is shown -/

mutual

/-- Counts that are a tree: the names below a single bucket are distinct, and none of them is that
of the count. -/
def IsTree : Aggregate → Prop
  | .buckets _ => True
  | .single _ nested =>
    (Table.keys nested).Nodup ∧ "doc_count" ∉ Table.keys nested ∧ AreTrees nested
  | .other _ => False

/-- The counts under each name are a tree. -/
def AreTrees : List (String × Aggregate) → Prop
  | [] => True
  | (_, a) :: rest => IsTree a ∧ AreTrees rest

end

mutual

/-- The plainest JSON of a tree of counts. -/
def toJson : Aggregate → Json
  | .buckets listed => .object [("buckets", .array (listed.map Bucket.toJson))]
  | .single docCount nested =>
    .object (("doc_count", .nat docCount.toNat) :: toEntries nested)
  | .other v => v

/-- The entries for the counts below a single bucket. -/
def toEntries : List (String × Aggregate) → List (String × Json)
  | [] => []
  | (name, a) :: rest => (name, toJson a) :: toEntries rest

end

theorem keys_toEntries : (nested : List (String × Aggregate)) →
    Table.keys (toEntries nested) = Table.keys nested
  | [] => rfl
  | (name, a) :: rest => by rw [toEntries, Table.keys_cons, Table.keys_cons, keys_toEntries rest]

mutual

/-- A tree is shown by its plainest JSON. -/
theorem shows_toJson : (a : Aggregate) → a.IsTree → a.toJson.Shows a
  | .buckets listed, _ => by
    refine .items (List.nodup_singleton _) (by simp) List.mem_cons_self ?_
    rw [List.forall₂_map_left_iff, List.forall₂_same]
    exact fun b _ => b.shownByItem_toJson
  | .single docCount nested, ⟨hnodup, hnoCount, htrees⟩ => by
    refine .single ?_ List.mem_cons_self (.pass nofun (showsBelow_toEntries nested htrees))
    rw [Table.keys_cons, keys_toEntries, List.nodup_cons]
    exact ⟨hnoCount, hnodup⟩

theorem showsBelow_toEntries : (nested : List (String × Aggregate)) → AreTrees nested →
    ShowsBelow (toEntries nested) nested
  | [], _ => .nil
  | (_, a) :: rest, ⟨ha, hrest⟩ => .cons (shows_toJson a ha) (showsBelow_toEntries rest hrest)

end

/-- The name of counts below a single bucket is the key of an object. -/
theorem exists_of_mem_keys_nestedIn {name : String} : {entries : List (String × Json)} →
    name ∈ Table.keys (nestedIn entries) → ∃ v, (name, v) ∈ entries ∧ v.isObject
  | [], h => absurd h List.not_mem_nil
  | (key, v) :: rest, h => by
    rw [nestedIn] at h
    split at h
    · next hv =>
      rcases List.mem_cons.mp h with rfl | h
      · exact ⟨v, List.mem_cons_self, hv⟩
      · obtain ⟨w, hw, hobject⟩ := exists_of_mem_keys_nestedIn h
        exact ⟨w, List.mem_cons_of_mem _ hw, hobject⟩
    · obtain ⟨w, hw, hobject⟩ := exists_of_mem_keys_nestedIn h
      exact ⟨w, List.mem_cons_of_mem _ hw, hobject⟩

mutual

/-- Only trees are shown. -/
theorem isTree_of_shows : {v : Json} → {a : Aggregate} → v.Shows a → a.IsTree
  | _, _, .items _ _ _ _ => trivial
  | _, _, .keyed _ _ _ _ => trivial
  | .object entries, .single docCount nested, .single nodup count below => by
    have hnested := nestedIn_of_showsBelow below
    refine ⟨?_, fun hmem => ?_, areTrees_of_showsBelow below⟩
    · rw [← hnested]
      exact nodup.sublist (keys_nestedIn_sublist entries)
    · rw [← hnested] at hmem
      obtain ⟨v, hv, hobject⟩ := exists_of_mem_keys_nestedIn hmem
      have hcount := (Table.get?_eq_some_iff nodup).mpr count
      rw [(Table.get?_eq_some_iff nodup).mpr hv] at hcount
      rw [Option.some.inj hcount] at hobject
      cases hobject

theorem areTrees_of_showsBelow : {entries : List (String × Json)} →
    {nested : List (String × Aggregate)} → ShowsBelow entries nested → AreTrees nested
  | _, _, .nil => trivial
  | _, _, .pass _ tail => areTrees_of_showsBelow tail
  | _, _, .cons head tail => ⟨isTree_of_shows head, areTrees_of_showsBelow tail⟩

end

/-- **Trees of counts are recovered.** Every tree of counts is shown by some value, and nothing else
is. From every value that shows a tree the tree is read, buckets and names in their order, however
the buckets are listed, whatever else stands in the objects, and whatever the names are. -/
theorem trees_recovered :
    (∀ v a, Json.Shows v a → ofJson v = a) ∧ ∀ a : Aggregate, (∃ v, Json.Shows v a) ↔ a.IsTree :=
  ⟨fun _ _ => ofJson_of_shows,
    fun a => ⟨fun ⟨_, h⟩ => isTree_of_shows h, fun h => ⟨a.toJson, shows_toJson a h⟩⟩⟩

/-- Counts below a single bucket that are called like the words which tell the shapes apart: one
lists its bucket under the bucket's key, the other in an array beside a count of something else. -/
theorem trees_recovered_of_reserved_names :
    let keyed : Json := .object [("buckets", .object [("acme", .object [("doc_count", .nat 2)])])]
    let listed : Json := .object [("sum_other_doc_count", .nat 0), ("buckets", .array [.object [
      ("doc_count", .nat 3), ("key_as_string", .string "zero"), ("key", .int 0)]])]
    let v : Json := .object [("meta", keyed), ("key", .null), ("doc_count", .nat 5),
      ("buckets", listed)]
    let a : Aggregate := .single 5 [("meta", .buckets [⟨.string "acme", none, 2⟩]),
      ("buckets", .buckets [⟨.int 0, some "zero", 3⟩])]
    v.Shows a ∧ ofJson v = a ∧ a.IsTree := by
  intro keyed listed v a
  have hkeyed : keyed.Shows (.buckets [⟨.string "acme", none, 2⟩]) := by
    refine .keyed (by decide) (by decide) List.mem_cons_self (.cons (.mk ?_ rfl (by decide)) .nil)
    exact ⟨by decide, List.mem_cons_self, nofun, fun _ => by decide⟩
  have hlisted : listed.Shows (.buckets [⟨.int 0, some "zero", 3⟩]) := by
    refine .items (by decide) (by decide) (.tail _ List.mem_cons_self)
      (.cons (.mk ?_ (.tail _ (.tail _ List.mem_cons_self))) .nil)
    refine ⟨by decide, List.mem_cons_self, ?_, nofun⟩
    rintro s ⟨⟩
    exact .tail _ List.mem_cons_self
  have hv : v.Shows a := .single (by decide) (.tail _ (.tail _ List.mem_cons_self))
    (.cons hkeyed (.pass nofun (.pass nofun (.cons hlisted .nil))))
  exact ⟨hv, trees_recovered.1 v a hv, (trees_recovered.2 a).mp ⟨v, hv⟩⟩

end Aggregate

end SearchBridge
