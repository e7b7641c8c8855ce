import SearchBridge.Json.Raw
import SearchBridge.Proofs.Table

/-!
# Reading values back

A JSON value can be taken for the tree of a text. Reading it back whole gives the value, and if no
object in it repeats a key, then merging repeated keys does not change it. So a table of JSON values
is read member by member, in order.

Trees are compared part by part, which makes it decidable whether a given text has a given tree.

## Main definitions

* `Json.Raw.same` : whether two trees are the same.

## Main results

* `Json.Raw.same_iff` : the comparison is exact.
* `Json.whole_raw`, `Json.merged_of_keysDistinct` : reading a value back, and merging its keys.
* `Json.keysDistinct_of_value`, `Json.keysDistinct_of_readTable` : what was read repeats no key.
* `Json.readTable_raw` : reading a table from an object.
-/

namespace SearchBridge

namespace Json

open Raw

/-! ### Equality of trees -/

mutual

/-- Whether two trees are the same. -/
def Raw.same : Raw → Raw → Bool
  | .null, .null => true
  | .bool a, .bool b => a == b
  | .number m, .number n => m == n
  | .string s, .string t => s == t
  | .array rs, .array ss => sameItems rs ss
  | .object ms, .object ns => sameMembers ms ns
  | .unusable a, .unusable b => a == b
  | .broken a, .broken b => a == b
  | _, _ => false

/-- Whether two lists of trees are the same. -/
def Raw.sameItems : List Raw → List Raw → Bool
  | [], [] => true
  | r :: rs, s :: ss => r.same s && sameItems rs ss
  | _, _ => false

/-- Whether two lists of members are the same. -/
def Raw.sameMembers : List (Option String × Raw) → List (Option String × Raw) → Bool
  | [], [] => true
  | (k, r) :: ms, (l, s) :: ns => k == l && r.same s && sameMembers ms ns
  | _, _ => false

end

mutual

theorem Raw.same_iff : (r s : Raw) → (r.same s ↔ r = s)
  | .null, s | .bool _, s | .number _, s | .string _, s | .unusable _, s | .broken _, s => by
    cases s <;> simp [same]
  | .array rs, s => by cases s <;> simp [same, sameItems_iff rs]
  | .object ms, s => by cases s <;> simp [same, sameMembers_iff ms]

theorem Raw.sameItems_iff : (rs ss : List Raw) → (sameItems rs ss ↔ rs = ss)
  | [], ss => by cases ss <;> simp [sameItems]
  | r :: rs, ss => by cases ss <;> simp [sameItems, same_iff r, sameItems_iff rs]

theorem Raw.sameMembers_iff :
    (ms ns : List (Option String × Raw)) → (sameMembers ms ns ↔ ms = ns)
  | [], ns => by cases ns <;> simp [sameMembers]
  | (k, r) :: ms, ns => by
    cases ns <;> simp [sameMembers, same_iff r, sameMembers_iff ms, Prod.ext_iff]

end

/-- Trees can be compared, and so can what a given text is read as. -/
instance : DecidableEq Raw := fun r s => decidable_of_decidable_of_iff (r.same_iff s)

/-! ### Reading values back -/

/-- The members of an object's tree, one for each entry. -/
theorem rawEntries_eq_map : (entries : List (String × Json)) →
    rawEntries entries = entries.map fun e => (some e.1, e.2.raw)
  | [] => rfl
  | (k, v) :: rest => by rw [rawEntries, rawEntries_eq_map rest, List.map_cons]

theorem rawEntries_append (s t : List (String × Json)) :
    rawEntries (s ++ t) = rawEntries s ++ rawEntries t := by
  rw [rawEntries_eq_map, rawEntries_eq_map, rawEntries_eq_map, List.map_append]

mutual

/-- Reading a value back whole gives the value. -/
theorem whole_raw : (v : Json) → v.raw.whole = .ok v
  | .null => rfl
  | .bool _ => rfl
  | .number _ => rfl
  | .string _ => rfl
  | .array items => by
    rw [raw, whole, wholeItems_rawItems items]
    rfl
  | .object entries => by
    rw [raw, whole, wholeMembers_rawEntries entries]
    rfl

theorem wholeItems_rawItems : (items : List Json) → wholeItems (rawItems items) = .ok items
  | [] => rfl
  | v :: rest => by
    rw [rawItems, wholeItems, whole_raw v, wholeItems_rawItems rest]
    rfl

theorem wholeMembers_rawEntries : (entries : List (String × Json)) →
    wholeMembers (rawEntries entries) = .ok entries
  | [] => rfl
  | (k, v) :: rest => by
    rw [rawEntries, wholeMembers, whole_raw v, wholeMembers_rawEntries rest]
    rfl

end

theorem itemsDistinct_iff : {items : List Json} →
    itemsDistinct items ↔ ∀ v ∈ items, v.keysDistinct
  | [] => by simp [itemsDistinct]
  | v :: rest => by
    rw [itemsDistinct, Bool.and_eq_true, itemsDistinct_iff, List.forall_mem_cons]

theorem entriesDistinct_iff : {entries : List (String × Json)} →
    entriesDistinct entries ↔ ∀ e ∈ entries, e.2.keysDistinct
  | [] => by simp [entriesDistinct]
  | (k, v) :: rest => by
    rw [entriesDistinct, Bool.and_eq_true, entriesDistinct_iff, List.forall_mem_cons]

/-- The keys of an object with distinct keys, and the values under them. -/
theorem keysDistinct_object {entries : List (String × Json)} :
    (Json.object entries).keysDistinct ↔
      (Table.keys entries).Nodup ∧ entriesDistinct entries := by
  rw [keysDistinct, Bool.and_eq_true, decide_eq_true_iff]

theorem keysDistinct_of_mem {key : String} {v : Json} {entries : List (String × Json)}
    (h : entriesDistinct entries) (hmem : (key, v) ∈ entries) : v.keysDistinct :=
  entriesDistinct_iff.mp h (key, v) hmem

mutual

/-- Merging repeated keys leaves a value without repeated keys as it is. -/
theorem merged_of_keysDistinct : (v : Json) → v.keysDistinct → v.merged = v
  | .null, _ => rfl
  | .bool _, _ => rfl
  | .number _, _ => rfl
  | .string _, _ => rfl
  | .array items, h => by rw [merged, mergedItems_of_itemsDistinct items h]
  | .object entries, h => by
    obtain ⟨hkeys, hentries⟩ := keysDistinct_object.mp h
    rw [merged, mergedEntries_of_entriesDistinct entries hentries, Table.ofEntries_of_nodup hkeys]

theorem mergedItems_of_itemsDistinct : (items : List Json) → itemsDistinct items →
    mergedItems items = items
  | [], _ => rfl
  | v :: rest, h => by
    obtain ⟨hv, hrest⟩ := Bool.and_eq_true_iff.mp h
    rw [mergedItems, merged_of_keysDistinct v hv, mergedItems_of_itemsDistinct rest hrest]

theorem mergedEntries_of_entriesDistinct : (entries : List (String × Json)) →
    entriesDistinct entries → mergedEntries entries = entries
  | [], _ => rfl
  | (k, v) :: rest, h => by
    obtain ⟨hv, hrest⟩ := Bool.and_eq_true_iff.mp h
    rw [mergedEntries, merged_of_keysDistinct v hv, mergedEntries_of_entriesDistinct rest hrest]

end

mutual

/-- Merged keys are distinct. -/
theorem keysDistinct_merged : (v : Json) → v.merged.keysDistinct
  | .null | .bool _ | .number _ | .string _ => rfl
  | .array items => by
    rw [merged, keysDistinct]
    exact itemsDistinct_mergedItems items
  | .object entries => by
    rw [merged, keysDistinct_object, entriesDistinct_iff]
    exact ⟨Table.nodup_keys_ofEntries _,
      fun e he => entriesDistinct_iff.mp (entriesDistinct_mergedEntries entries) e
        (Table.mem_of_mem_ofEntries he)⟩

theorem itemsDistinct_mergedItems : (items : List Json) → itemsDistinct (mergedItems items)
  | [] => rfl
  | v :: rest =>
    Bool.and_eq_true_iff.mpr ⟨keysDistinct_merged v, itemsDistinct_mergedItems rest⟩

theorem entriesDistinct_mergedEntries : (entries : List (String × Json)) →
    entriesDistinct (mergedEntries entries)
  | [] => rfl
  | (_, v) :: rest =>
    Bool.and_eq_true_iff.mpr ⟨keysDistinct_merged v, entriesDistinct_mergedEntries rest⟩

end

/-- A value that was read repeats no key. -/
theorem keysDistinct_of_value {r : Raw} {v : Json} (h : r.value = .ok v) : v.keysDistinct := by
  rw [Raw.value] at h
  cases hwhole : r.whole with
  | error e =>
    rw [hwhole] at h
    cases h
  | ok w =>
    rw [hwhole] at h
    rw [← Except.ok.inj h]
    exact keysDistinct_merged w

section Lists

variable {α : Type} {read : Raw → Except Error α}

/-- A list is read item by item. -/
theorem mapM_eq_ok_iff {rs : List Raw} {xs : List α} :
    rs.mapM read = .ok xs ↔ List.Forall₂ (fun r x => read r = .ok x) rs xs := by
  induction rs generalizing xs with
  | nil =>
    rw [List.mapM_nil, List.forall₂_nil_left_iff]
    exact ⟨fun h => (Except.ok.inj h).symm, fun h => congrArg Except.ok h.symm⟩
  | cons r rs ih =>
    rw [List.mapM_cons, List.forall₂_cons_left_iff]
    constructor
    · intro h
      cases hr : read r with
      | error e =>
        rw [hr] at h
        cases h
      | ok x =>
        cases hrs : rs.mapM read with
        | error e =>
          rw [hr, hrs] at h
          cases h
        | ok ys =>
          rw [hr, hrs] at h
          exact ⟨x, ys, rfl, ih.mp hrs, (Except.ok.inj h).symm⟩
    · rintro ⟨x, ys, hr, hrs, rfl⟩
      rw [hr, ih.mpr hrs]
      rfl

/-- The items of a list that was read were read one by one. -/
theorem exists_of_mem_readList {r : Raw} {xs : List α} (h : readList read r = .ok xs) :
    ∀ x ∈ xs, ∃ r', read r' = .ok x := by
  cases r with
  | array rs =>
    have hrs : List.Forall₂ (fun r x => read r = .ok x) rs xs := mapM_eq_ok_iff.mp h
    clear h
    induction hrs with
    | nil => exact fun _ hx => absurd hx List.not_mem_nil
    | cons hr _ ih => exact List.forall_mem_cons.mpr ⟨⟨_, hr⟩, ih⟩
  | _ => cases h

end Lists

section Tables

variable {α : Type} {read : Raw → Except Error α} {decode : Json → α}

/-- The values of a table are read from members. -/
theorem exists_of_mem_readMembers : {members : List (Option String × Raw)} →
    {entries : List (String × α)} → readMembers read members = .ok entries →
      ∀ e ∈ entries, ∃ r, read r = .ok e.2
  | [], _, h => by
    rw [← Except.ok.inj h]
    exact fun _ he => absurd he List.not_mem_nil
  | (none, _) :: _, _, h => nomatch h
  | (some k, r) :: rest, entries, h => by
    rw [readMembers] at h
    cases hv : read r with
    | error e =>
      rw [hv] at h
      cases h
    | ok x =>
      cases hrest : readMembers read rest with
      | error e =>
        rw [hv, hrest] at h
        cases h
      | ok xs =>
        rw [hv, hrest] at h
        rw [← Except.ok.inj h, List.forall_mem_cons]
        exact ⟨⟨r, hv⟩, exists_of_mem_readMembers hrest⟩

/-- A table of values that was read repeats no key. -/
theorem keysDistinct_of_readTable {r : Raw} {t : Table Json}
    (h : readTable Raw.value r = .ok t) : (Json.object t).keysDistinct := by
  cases r with
  | object members =>
    rw [readTable] at h
    cases hmembers : Raw.readMembers Raw.value members with
    | error e =>
      rw [hmembers] at h
      cases h
    | ok entries =>
      rw [hmembers] at h
      rw [← Except.ok.inj h, keysDistinct_object, entriesDistinct_iff]
      refine ⟨Table.nodup_keys_ofEntries entries, fun e he => ?_⟩
      obtain ⟨r, hr⟩ := exists_of_mem_readMembers hmembers e (Table.mem_of_mem_ofEntries he)
      exact keysDistinct_of_value hr
  | _ => cases h

theorem readMembers_rawEntries : (entries : List (String × Json)) →
    (∀ e ∈ entries, read e.2.raw = .ok (decode e.2)) →
      readMembers read (rawEntries entries) = .ok (Table.mapValues decode entries)
  | [], _ => rfl
  | (k, v) :: rest, h => by
    obtain ⟨hv, hrest⟩ := List.forall_mem_cons.mp h
    rw [rawEntries, readMembers, hv, readMembers_rawEntries rest hrest]
    rfl

/-- An object with distinct keys is read as the table of its decoded values. -/
theorem readTable_raw {entries : List (String × Json)} (hkeys : (Table.keys entries).Nodup)
    (h : ∀ e ∈ entries, read e.2.raw = .ok (decode e.2)) :
    readTable read (Json.object entries).raw = .ok (Table.mapValues decode entries) := by
  have hmapped : (Table.mapValues decode entries).keys.Nodup := by
    rw [Table.keys_mapValues]
    exact hkeys
  rw [raw, readTable, readMembers_rawEntries entries h]
  exact congrArg Except.ok (Table.ofEntries_of_nodup hmapped)

end Tables

end Json

end SearchBridge
