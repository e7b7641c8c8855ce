import Mathlib.Data.List.Nodup
import SearchBridge.Json.Record
import SearchBridge.Proofs.Json.Values

/-!
# Reading back what was written

Words, texts, optional values and lists are read back from the JSON that is written for them. An
object that has the fields of a record for its members, each once and in their order, is read like
the array of their values.

## Main results

* `Json.readList_array`, `Json.readOption_orNull` : lists and optional values are read back if their
  items are.
* `Json.readRecord_inOrder` : reading an object with the fields of a record in their order.
* `Json.readPositions_optional`, `Json.readPositions_mandatory` : reading one field after the other.
-/

namespace SearchBridge

namespace Json

open Raw

/-! ### Words -/

theorem readText_string (s : String) : readText (Json.string s).raw = .ok s := rfl

theorem readBool_bool (b : Bool) : readBool (Json.bool b).raw = .ok b := rfl

theorem readDouble_double (x : Binary64.Finite) :
    readDouble (double (.finite x)).raw = .ok (.finite x) := rfl

theorem readInt_int {least greatest n : Int} (h : least ≤ n ∧ n ≤ greatest) :
    readInt least greatest (int n).raw = .ok n :=
  if_pos h

theorem readUInt32_nat (n : UInt32) : readUInt32 (nat n.toNat).raw = .ok n := by
  have hrange : (0 : Int) ≤ n.toNat ∧ (n.toNat : Int) ≤ UInt32.size - 1 := by
    have := n.toNat_lt_size
    omega
  rw [readUInt32, nat, readInt_int hrange]
  exact congrArg Except.ok UInt32.ofNat_toNat

theorem readUInt64_nat (n : UInt64) : readUInt64 (nat n.toNat).raw = .ok n := by
  have hrange : (0 : Int) ≤ n.toNat ∧ (n.toNat : Int) ≤ UInt64.size - 1 := by
    have := n.toNat_lt_size
    omega
  rw [readUInt64, nat, readInt_int hrange]
  exact congrArg Except.ok UInt64.ofNat_toNat

theorem readInt32_int (n : Int32) : readInt32 (int n.toInt).raw = .ok n := by
  rw [readInt32, readInt_int ⟨n.minValue_le_toInt, n.toInt_le⟩]
  exact congrArg Except.ok n.ofInt_toInt

theorem readInt64_int (n : Int64) : readInt64 (int n.toInt).raw = .ok n := by
  rw [readInt64, readInt_int ⟨n.minValue_le_toInt, n.toInt_le⟩]
  exact congrArg Except.ok n.ofInt_toInt

/-! ### Optional values and lists -/

section Containers

variable {α : Type} {read : Raw → Except Error α} {encode : α → Json}

theorem readOption_of_ne_null {v : Json} (h : v ≠ .null) :
    readOption read v.raw = (read v.raw).map some := by
  cases v with
  | null => exact absurd rfl h
  | _ => rfl

/-- An optional value is read back if it is written as something other than `null`. -/
theorem readOption_orNull {o : Option α}
    (h : ∀ x ∈ o, encode x ≠ .null ∧ read (encode x).raw = .ok x) :
    readOption read (orNull encode o).raw = .ok o := by
  cases o with
  | none => rfl
  | some x =>
    obtain ⟨hnull, hread⟩ := h x rfl
    rw [orNull, readOption_of_ne_null hnull, hread]
    rfl

theorem rawItems_eq_map (items : List Json) : rawItems items = items.map raw := by
  induction items with
  | nil => rfl
  | cons v rest ih => rw [rawItems, ih, List.map_cons]

/-- A list is read back item by item. -/
theorem readList_array {xs : List α} (h : ∀ x ∈ xs, read (encode x).raw = .ok x) :
    readList read (Json.array (xs.map encode)).raw = .ok xs := by
  rw [raw, readList, rawItems_eq_map, mapM_eq_ok_iff, List.map_map, List.forall₂_map_left_iff,
    List.forall₂_same]
  exact h

theorem readList_strings (texts : List String) :
    readList readText (strings texts).raw = .ok texts :=
  readList_array fun _ _ => rfl

/-- Optional texts are read back. -/
theorem readOption_text (o : Option String) : readOption readText (orNull .string o).raw = .ok o :=
  readOption_orNull fun _ _ => ⟨nofun, rfl⟩

/-- Optional lists of texts are read back. -/
theorem readOption_strings (o : Option (List String)) :
    readOption (readList readText) (orNull strings o).raw = .ok o :=
  readOption_orNull fun texts _ => ⟨nofun, readList_strings texts⟩

end Containers

/-! ### Records -/

section Records

variable {σ α : Type} {fields : List (RecordField σ)}

/-- A field is found under its name. -/
theorem find?_of_mem (hdistinct : (fields.map (·.name)).Nodup) {f : RecordField σ}
    (hf : f ∈ fields) : fields.find? (·.name == f.name) = some f := by
  cases hfind : fields.find? (·.name == f.name) with
  | none => exact absurd (beq_self_eq_true f.name) (List.find?_eq_none.mp hfind f hf)
  | some g =>
    have hname : g.name = f.name := by simpa using List.find?_some hfind
    exact congrArg some
      (List.inj_on_of_nodup_map hdistinct (List.mem_of_find?_eq_some hfind) hf hname)

/-- The members that are left are the fields that are left, in their order. -/
private theorem readFields_inOrder (hdistinct : (fields.map (·.name)).Nodup) :
    (left : List (RecordField σ)) → (entries : List (String × Json)) → (seen : List String) →
    (record : σ) → Table.keys entries = left.map (·.name) → (left.map (·.name)).Nodup →
    (∀ f ∈ left, f ∈ fields ∧ f.name ∉ seen) → (∀ f ∈ fields, f.name ∈ seen ∨ f ∈ left) →
      readFields fields (rawEntries entries) seen record =
        readPositions left (rawItems (entries.map Prod.snd)) record
  | [], [], seen, record, _, _, _, hseen => by
    have hall : (fields.all fun f => !f.required || seen.contains f.name) = true := by
      refine List.all_eq_true.mpr fun f hf => Bool.or_eq_true_iff.mpr (.inr ?_)
      exact List.contains_iff_mem.mpr ((hseen f hf).resolve_right List.not_mem_nil)
    exact if_pos hall
  | f :: left, (key, v) :: entries, seen, record, hkeys, hleft, hnew, hseen => by
    obtain ⟨rfl, hrest⟩ := List.cons.inj hkeys
    obtain ⟨hfirst, hleft⟩ := List.nodup_cons.mp hleft
    obtain ⟨⟨hf, hunseen⟩, hnew⟩ := List.forall_mem_cons.mp hnew
    rw [rawEntries, List.map_cons, rawItems, readFields, readPositions]
    dsimp only
    rw [find?_of_mem hdistinct hf]
    dsimp only
    rw [Bool.eq_false_iff.mpr (mt List.contains_iff_mem.mp hunseen)]
    cases f.update v.raw with
    | error e => rfl
    | ok u =>
      refine readFields_inOrder hdistinct left entries (f.name :: seen) (u record) hrest hleft
        (fun g hg => ⟨(hnew g hg).1, ?_⟩) fun g hg => ?_
      · refine mt List.mem_cons.mp (not_or.mpr ⟨fun heq => hfirst ?_, (hnew g hg).2⟩)
        exact List.mem_map.mpr ⟨g, hg, heq⟩
      · obtain h | h := hseen g hg
        · exact .inl (List.mem_cons_of_mem _ h)
        · obtain rfl | h := List.mem_cons.mp h
          · exact .inl List.mem_cons_self
          · exact .inr h
  | [], _ :: _, _, _, hkeys, _, _, _ => nomatch hkeys
  | _ :: _, [], _, _, hkeys, _, _, _ => nomatch hkeys

/-- **An object with the fields of a record in their order** is read like the array of the
values. -/
theorem readRecord_inOrder {initial : σ} {entries : List (String × Json)}
    (hdistinct : (fields.map (·.name)).Nodup) (hkeys : Table.keys entries = fields.map (·.name)) :
    readRecord fields initial (Json.object entries).raw =
      readPositions fields (rawItems (entries.map Prod.snd)) initial :=
  readFields_inOrder hdistinct fields entries [] initial hkeys hdistinct
    (fun _ hf => ⟨hf, List.not_mem_nil⟩) fun _ hf => .inr hf

/-- So is the content of a tagged value. -/
theorem record?_inOrder (fields : List (RecordField σ)) {initial x : σ}
    {entries : List (String × Json)} (hdistinct : (fields.map (·.name)).Nodup)
    (hkeys : Table.keys entries = fields.map (·.name))
    (h : readPositions fields (rawItems (entries.map Prod.snd)) initial = .ok x) :
    (Json.object entries).record? fields initial = some x := by
  rw [record?, readRecord_inOrder hdistinct hkeys, h]
  rfl

variable {name : String} {read : Raw → Except Error α} {set : α → σ → σ} {v : Json} {x : α}

/-- A field that may be left out is set to the value that is read. -/
theorem readPositions_optional (h : read v.raw = .ok x) (rest : List Json) (record : σ) :
    readPositions (.optional name read set :: fields) (rawItems (v :: rest)) record =
      readPositions fields (rawItems rest) (set x record) := by
  rw [rawItems, readPositions, RecordField.optional]
  dsimp only
  rw [h]
  rfl

/-- A field that has to be present is set to the value that is read. -/
theorem readPositions_mandatory (h : read v.raw = .ok x) (rest : List Json) (record : σ) :
    readPositions (.mandatory name read set :: fields) (rawItems (v :: rest)) record =
      readPositions fields (rawItems rest) (set x record) := by
  rw [rawItems, readPositions, RecordField.mandatory]
  dsimp only
  rw [h]
  rfl

end Records

end Json

end SearchBridge
