import Mathlib.Data.List.Dedup
import Mathlib.Data.List.Induction
import SearchBridge.Table

/-!
# Tables with distinct keys

A list of entries whose keys are pairwise distinct is its own table: writing the entries one after
the other keeps them all where they stand, whether a later entry would replace an earlier one of the
same key or not. In such a table an entry is found exactly under its key.

## Main results

* `Table.get?_eq_none_iff`, `Table.get?_eq_some_iff` : looking up a key.
* `Table.ofEntries_of_nodup`, `Table.foldl_putNew_of_nodup` : writing entries with distinct keys.
* `Table.nodup_keys_ofEntries` : writing any entries makes a table with distinct keys.
* `Table.get?_ofEntries`, `Table.length_ofEntries` : writing any entries keeps last values.
* `Table.get?_foldl_putNew` : adding entries unless their keys are present keeps first values.
* `Table.foldl_putNew_append` : adding further entries leaves the earlier ones in front.
* `Table.exists_append_of_get?` : the place of an entry, and the table without it.
* `Table.perm_without` : tables that hold the same under all keys but one.
-/

namespace SearchBridge

namespace Table

variable {α β : Type}

theorem keys_eq_nil_iff {t : Table α} : t.keys = [] ↔ t = [] := List.map_eq_nil_iff

theorem mem_keys_of_mem {t : Table α} {key : String} {value : α} (h : (key, value) ∈ t) :
    key ∈ t.keys :=
  List.mem_map_of_mem (f := Prod.fst) h

/-- Nothing is found under a key exactly when it is not one of the table's. -/
theorem get?_eq_none_iff {t : Table α} {key : String} : t.get? key = none ↔ key ∉ t.keys := by
  rw [get?, List.lookup_eq_none_iff, keys, List.mem_map]
  constructor
  · rintro h ⟨e, he, rfl⟩
    simpa using h e he
  · intro h e he
    simpa using fun heq : key = e.1 => h ⟨e, he, heq.symm⟩

/-- Something is found under each of the table's keys. -/
theorem exists_get?_of_mem_keys {t : Table α} {key : String} (h : key ∈ t.keys) :
    ∃ value, t.get? key = some value :=
  Option.ne_none_iff_exists'.mp fun hnone => get?_eq_none_iff.mp hnone h

@[simp] theorem get?_nil (key : String) : Table.get? ([] : Table α) key = none := rfl

theorem get?_cons_self (key : String) (value : α) (t : Table α) :
    Table.get? ((key, value) :: t) key = some value :=
  List.lookup_cons_self

theorem get?_cons_of_ne {key key' : String} (h : key ≠ key') (value : α) (t : Table α) :
    Table.get? ((key', value) :: t) key = t.get? key := by
  rw [get?, List.lookup_cons, beq_eq_false_iff_ne.mpr h]
  rfl

/-- What is found under a key, entry by entry. -/
theorem get?_cons (key key' : String) (value : α) (t : Table α) :
    Table.get? ((key', value) :: t) key = if key = key' then some value else t.get? key := by
  split
  · next heq => rw [heq, get?_cons_self]
  · next hne => rw [get?_cons_of_ne hne]

/-- With distinct keys, a value is found under a key exactly when the table has that entry. -/
theorem get?_eq_some_iff {t : Table α} (h : t.keys.Nodup) {key : String} {value : α} :
    t.get? key = some value ↔ (key, value) ∈ t := by
  induction t with
  | nil => simp
  | cons e t ih =>
    obtain ⟨key', value'⟩ := e
    obtain ⟨hnew, h⟩ := List.nodup_cons.mp h
    by_cases heq : key = key'
    · subst heq
      rw [get?_cons_self, List.mem_cons]
      constructor
      · rintro ⟨⟩
        exact Or.inl rfl
      · rintro (heq | hmem)
        · rw [(Prod.mk.inj heq).2]
        · exact absurd (mem_keys_of_mem hmem) hnew
    · rw [get?_cons_of_ne heq, ih h, List.mem_cons]
      exact ⟨Or.inr, fun hmem => hmem.resolve_left fun h => heq (Prod.mk.inj h).1⟩

/-- In two tables one after the other, a key of both stands for its value in the first. -/
theorem get?_append (s t : Table α) (key : String) :
    Table.get? (s ++ t) key = (s.get? key).or (t.get? key) :=
  List.lookup_append

/-- In tables one after the other, a key stands for its value in the first that has it. -/
theorem get?_flatMap {β : Type*} (f : β → Table α) (xs : List β) (key : String) :
    Table.get? (xs.flatMap f) key = xs.findSome? fun x => (f x).get? key := by
  induction xs with
  | nil => rfl
  | cons x xs ih =>
    rw [List.flatMap_cons, get?_append, ih, List.findSome?_cons]
    cases (f x).get? key <;> rfl

/-- The table with every value mapped. -/
def mapValues (f : α → β) (t : Table α) : Table β := t.map fun e => (e.1, f e.2)

@[simp] theorem mapValues_cons (f : α → β) (e : String × α) (t : Table α) :
    mapValues f (e :: t) = (e.1, f e.2) :: mapValues f t := rfl

theorem mapValues_append (f : α → β) (s t : Table α) :
    mapValues f (s ++ t) = mapValues f s ++ mapValues f t :=
  List.map_append

@[simp] theorem keys_mapValues (f : α → β) (t : Table α) : (t.mapValues f).keys = t.keys := by
  simp [keys, mapValues]

/-- Looking up a key in a table whose values were mapped. -/
theorem get?_mapValues (f : α → β) (t : Table α) (key : String) :
    (t.mapValues f).get? key = (t.get? key).map f := by
  induction t with
  | nil => rfl
  | cons e t ih =>
    obtain ⟨key', value⟩ := e
    by_cases heq : key = key'
    · subst heq
      rw [mapValues_cons, get?_cons_self, get?_cons_self, Option.map_some]
    · rw [mapValues_cons, get?_cons_of_ne heq, get?_cons_of_ne heq, ih]

/-- The table without the entries of a key. -/
def without (t : Table α) (key : String) : Table α := t.filter fun e => e.1 != key

theorem without_of_notMem {t : Table α} {key : String} (h : key ∉ t.keys) : t.without key = t := by
  refine List.filter_eq_self.mpr fun e he => bne_iff_ne.mpr ?_
  rintro rfl
  exact h (List.mem_map_of_mem he)

/-- The entries of one key say nothing about the others. -/
theorem get?_without_of_ne (t : Table α) {key other : String} (h : other ≠ key) :
    (t.without key).get? other = t.get? other := by
  induction t with
  | nil => rfl
  | cons e t ih =>
    obtain ⟨k, value⟩ := e
    rw [without] at ih ⊢
    by_cases hk : k = key
    · rw [List.filter_cons_of_neg (by simp [hk]), ih, get?_cons_of_ne (hk ▸ h)]
    · rw [List.filter_cons_of_pos (by simp [hk]), get?_cons, get?_cons, ih]

/-- With distinct keys, the entry of a key stands at one place, and the table without the key is
what stands around it. -/
theorem exists_append_of_get? {t : Table α} (h : t.keys.Nodup) {key : String} {value : α}
    (hget : t.get? key = some value) : ∃ s s' : Table α, t = s ++ (key, value) :: s' ∧
      key ∉ s.keys ∧ key ∉ s'.keys ∧ t.without key = s ++ s' := by
  obtain ⟨s, s', rfl⟩ := List.append_of_mem ((get?_eq_some_iff h).mp hget)
  rw [keys_append, keys_cons, List.nodup_middle, ← keys_append] at h
  have hkey : key ∉ Table.keys (s ++ s') := (List.nodup_cons.mp h).1
  have hother : key ∉ Table.keys s ∧ key ∉ Table.keys s' := by
    rw [keys_append, List.mem_append, not_or] at hkey
    exact hkey
  refine ⟨s, s', rfl, hother.1, hother.2, ?_⟩
  rw [without, List.filter_append, List.filter_cons_of_neg (by simp), ← List.filter_append]
  exact without_of_notMem hkey

/-- Tables with distinct keys that hold the same under all keys but one are equal without that key,
up to the order of their entries. -/
theorem perm_without {s t : Table α} (hs : s.keys.Nodup) (ht : t.keys.Nodup) {key : String}
    (h : ∀ k, k ≠ key → s.get? k = t.get? k) : (s.without key).Perm (t.without key) := by
  have hnodup {u : Table α} (hu : u.keys.Nodup) : (u.without key).Nodup :=
    (List.Nodup.of_map _ hu).filter _
  rw [List.perm_ext_iff_of_nodup (hnodup hs) (hnodup ht)]
  rintro ⟨k, value⟩
  rw [without, without, List.mem_filter, List.mem_filter, ← get?_eq_some_iff hs,
    ← get?_eq_some_iff ht]
  refine and_congr_left fun hk => ?_
  rw [h k (bne_iff_ne.mp hk)]

theorem put_of_notMem {t : Table α} {key : String} (h : key ∉ t.keys) (value : α) :
    t.put key value = t ++ [(key, value)] := by
  induction t with
  | nil => rfl
  | cons e t ih =>
    rw [keys_cons, List.mem_cons, not_or] at h
    rw [put, if_neg (Ne.symm h.1), ih h.2, List.cons_append]

theorem mem_of_mem_put {t : Table α} {key : String} {value : α} {e : String × α}
    (h : e ∈ t.put key value) : e ∈ t ∨ e = (key, value) := by
  induction t with
  | nil => exact Or.inr (List.mem_singleton.mp h)
  | cons e' t ih =>
    obtain ⟨k, v⟩ := e'
    rw [put] at h
    split at h
    · next heq =>
      rcases List.mem_cons.mp h with rfl | h
      · exact Or.inr (by rw [heq])
      · exact Or.inl (List.mem_cons_of_mem _ h)
    · rcases List.mem_cons.mp h with rfl | h
      · exact Or.inl List.mem_cons_self
      · exact (ih h).imp_left (List.mem_cons_of_mem _)

/-- Writing a key changes what is found under that key alone. -/
theorem get?_put (t : Table α) (key key' : String) (value : α) :
    (t.put key value).get? key' = if key' = key then some value else t.get? key' := by
  induction t with
  | nil =>
    rw [put]
    split
    · next heq => rw [heq, get?_cons_self]
    · next hne => rw [get?_cons_of_ne hne]
  | cons e t ih =>
    obtain ⟨k, v⟩ := e
    rw [put]
    by_cases hk : key' = k
    · subst hk
      by_cases heq : key' = key
      · rw [if_pos heq, if_pos heq, get?_cons_self]
      · rw [if_neg heq, if_neg heq, get?_cons_self, get?_cons_self]
    · rw [get?_cons_of_ne hk, ← ih]
      split
      · next heq => rw [get?_cons_of_ne hk, ih, if_neg (heq ▸ hk)]
      · rw [get?_cons_of_ne hk]

theorem nodup_keys_put {t : Table α} (h : t.keys.Nodup) (key : String) (value : α) :
    (t.put key value).keys.Nodup := by
  rw [keys_put]
  split
  · exact h
  · next hnew => exact List.nodup_append_comm.mp (List.nodup_cons.mpr ⟨hnew, h⟩)

/-- Writing one entry after the other keeps the keys distinct. -/
theorem nodup_keys_ofEntries (entries : List (String × α)) : (ofEntries entries).keys.Nodup :=
  List.foldlRecOn (motive := fun t : Table α => t.keys.Nodup) entries _ List.nodup_nil
    fun _ h e _ => nodup_keys_put h e.1 e.2

/-- Writing one entry after the other leaves nothing but entries. -/
theorem mem_of_mem_ofEntries {entries : List (String × α)} {e : String × α}
    (h : e ∈ ofEntries entries) : e ∈ entries := by
  have hall : ∀ e ∈ ofEntries entries, e ∈ entries := by
    refine List.foldlRecOn (motive := fun t : Table α => ∀ e ∈ t, e ∈ entries) entries _
      (fun _ h => absurd h List.not_mem_nil) fun t ht e' he' e he => ?_
    rcases mem_of_mem_put he with he | rfl
    · exact ht e he
    · exact he'
  exact hall e h

/-- Adding entries unless their keys are present keeps the keys distinct. -/
theorem nodup_keys_foldl_putNew (entries : List (String × α)) :
    Table.keys (entries.foldl (fun t e => Table.putNew t e.1 e.2) []) |>.Nodup := by
  refine List.foldlRecOn (motive := fun t : Table α => t.keys.Nodup) entries _ List.nodup_nil
    fun t h e _ => ?_
  rw [putNew]
  split
  · exact h
  · next hnew =>
    rw [keys_append]
    exact List.nodup_append_comm.mp (List.nodup_cons.mpr ⟨hnew, h⟩)

/-- Adding entries unless their keys are present leaves nothing but entries. -/
theorem mem_of_mem_foldl_putNew {entries : List (String × α)} {e : String × α}
    (h : e ∈ entries.foldl (fun t e => Table.putNew t e.1 e.2) []) : e ∈ entries := by
  have hall : ∀ e ∈ entries.foldl (fun t e => Table.putNew t e.1 e.2) [], e ∈ entries := by
    refine List.foldlRecOn (motive := fun t : Table α => ∀ e ∈ t, e ∈ entries) entries _
      (fun _ h => absurd h List.not_mem_nil) fun t ht e' he' e he => ?_
    rw [putNew] at he
    split at he
    · exact ht e he
    · rcases List.mem_append.mp he with he | he
      · exact ht e he
      · rw [List.mem_singleton.mp he]
        exact he'
  exact hall e h

theorem ofEntries_concat (entries : List (String × α)) (e : String × α) :
    ofEntries (entries ++ [e]) = (ofEntries entries).put e.1 e.2 := by
  rw [ofEntries, List.foldl_append]
  rfl

/-- Writing one entry after the other leaves, under each key, its last value. -/
theorem get?_ofEntries (entries : List (String × α)) (key : String) :
    (ofEntries entries).get? key =
      (entries.filter fun e => e.1 = key).getLast?.map Prod.snd := by
  induction entries using List.reverseRecOn with
  | nil => rfl
  | append_singleton entries e ih =>
    rw [ofEntries_concat, get?_put, List.filter_append]
    by_cases heq : e.1 = key
    · rw [if_pos heq.symm, List.filter_cons_of_pos (by simpa using heq), List.filter_nil,
        List.getLast?_concat, Option.map_some]
    · rw [if_neg (Ne.symm heq), List.filter_cons_of_neg (by simpa using heq), List.filter_nil,
        List.append_nil, ih]

/-- An entry is kept if its key does not come again. -/
theorem get?_ofEntries_of_last {before after : List (String × α)} {key : String} {value : α}
    (h : key ∉ Table.keys after) :
    (ofEntries (before ++ (key, value) :: after)).get? key = some value := by
  have hafter : (after.filter fun e => e.1 = key) = [] := by
    refine List.filter_eq_nil_iff.mpr fun e he hkey => h ?_
    exact of_decide_eq_true hkey ▸ mem_keys_of_mem he
  rw [get?_ofEntries, List.filter_append, List.filter_cons_of_pos (by simp), hafter,
    List.getLast?_concat, Option.map_some]

theorem mem_keys_ofEntries {entries : List (String × α)} {key : String} :
    key ∈ (ofEntries entries).keys ↔ key ∈ Table.keys entries := by
  induction entries using List.reverseRecOn with
  | nil => exact Iff.rfl
  | append_singleton entries e ih =>
    rw [ofEntries_concat, keys_put, keys_append, List.mem_append, ← ih]
    split
    · next hmem =>
      exact ⟨Or.inl, fun h => h.elim id fun h => List.mem_singleton.mp h ▸ hmem⟩
    · exact List.mem_append

/-- Writing one entry after the other leaves one entry for each key. -/
theorem length_ofEntries (entries : List (String × α)) :
    (ofEntries entries).length = (Table.keys entries).dedup.length := by
  have hperm : (ofEntries entries).keys.Perm (Table.keys entries).dedup := by
    rw [List.perm_ext_iff_of_nodup (nodup_keys_ofEntries entries) (List.nodup_dedup _)]
    exact fun key => mem_keys_ofEntries.trans List.mem_dedup.symm
  rw [← hperm.length_eq, Table.keys, List.length_map]

/-- An entry is added only where nothing was found. -/
theorem get?_putNew (t : Table α) (key key' : String) (value : α) :
    (t.putNew key value).get? key' = (t.get? key').or (Table.get? [(key, value)] key') := by
  rw [putNew]
  split
  · next hmem =>
    by_cases heq : key' = key
    · subst heq
      obtain ⟨value', hvalue⟩ := exists_get?_of_mem_keys hmem
      rw [hvalue, Option.some_or]
    · rw [get?_cons_of_ne heq, get?_nil, Option.or_none]
  · exact get?_append t _ key'

/-- Adding entries unless their keys are present leaves, under each key, its first value. -/
theorem get?_foldl_putNew (entries : List (String × α)) (key : String) :
    Table.get? (entries.foldl (fun t e => Table.putNew t e.1 e.2) []) key =
      Table.get? entries key := by
  suffices h : ∀ t : Table α, Table.get? (entries.foldl (fun t e => t.putNew e.1 e.2) t) key =
      (t.get? key).or (Table.get? entries key) from h []
  intro t
  induction entries generalizing t with
  | nil => exact (Option.or_none).symm
  | cons e entries ih =>
    rw [List.foldl_cons, ih, get?_putNew, Option.or_assoc, ← get?_append, List.singleton_append]

/-- The keys of entries that are added unless their keys are present. -/
theorem mem_keys_foldl_putNew {entries : List (String × α)} {key : String} :
    key ∈ Table.keys (entries.foldl (fun t e => Table.putNew t e.1 e.2) []) ↔
      key ∈ Table.keys entries := by
  rw [← not_iff_not, ← get?_eq_none_iff, ← get?_eq_none_iff, get?_foldl_putNew]

/-- Nothing is left of entries only if there are none. -/
theorem foldl_putNew_eq_nil_iff {entries : List (String × α)} :
    entries.foldl (fun t e => Table.putNew t e.1 e.2) [] = [] ↔ entries = [] := by
  rw [← keys_eq_nil_iff, ← keys_eq_nil_iff (t := entries), List.eq_nil_iff_forall_not_mem,
    List.eq_nil_iff_forall_not_mem]
  exact forall_congr' fun key => not_congr mem_keys_foldl_putNew

theorem putNew_of_mem {t : Table α} {key : String} (h : key ∈ t.keys) (value : α) :
    t.putNew key value = t := if_pos h

theorem putNew_of_notMem {t : Table α} {key : String} (h : key ∉ t.keys) (value : α) :
    t.putNew key value = t ++ [(key, value)] := if_neg h

/-- The keys of those entries of a table whose keys another one does not have. -/
theorem mem_keys_filter_notMem {s t : Table α} {key : String} :
    key ∈ Table.keys (t.filter fun e => e.1 ∉ s.keys) ↔ key ∈ t.keys ∧ key ∉ s.keys := by
  have hkeys : Table.keys (t.filter fun e => e.1 ∉ s.keys) = t.keys.filter (· ∉ s.keys) := by
    simp only [keys, List.filter_map]
    rfl
  rw [hkeys, List.mem_filter, decide_eq_true_iff]

/-- Adding an entry behind a table adds it to the rest if the table does not have its key. -/
theorem putNew_append_filter (s t : Table α) (key : String) (value : α) :
    Table.putNew (s ++ t.filter fun e => e.1 ∉ s.keys) key value =
      s ++ (t.putNew key value).filter fun e => e.1 ∉ s.keys := by
  have hmem : key ∈ Table.keys (s ++ t.filter fun e => e.1 ∉ s.keys) ↔
      key ∈ s.keys ∨ key ∈ t.keys ∧ key ∉ s.keys := by
    rw [keys_append, List.mem_append, mem_keys_filter_notMem]
  by_cases hs : key ∈ s.keys
  · rw [putNew_of_mem (hmem.mpr (Or.inl hs)), putNew]
    split
    · rfl
    · rw [List.filter_append, List.filter_cons_of_neg (by simpa using hs), List.filter_nil,
        List.append_nil]
  · by_cases ht : key ∈ t.keys
    · rw [putNew_of_mem (hmem.mpr (Or.inr ⟨ht, hs⟩)), putNew_of_mem ht]
    · have hnew := mt hmem.mp (not_or.mpr ⟨hs, fun h => ht h.1⟩)
      rw [putNew_of_notMem hnew, putNew_of_notMem ht, List.filter_append,
        List.filter_cons_of_pos (by simpa using hs), List.filter_nil, List.append_assoc]

/-- Of two lists of entries, the second adds those whose keys the first does not have. -/
theorem foldl_putNew_append (xs ys : List (String × α)) :
    (xs ++ ys).foldl (fun t e => Table.putNew t e.1 e.2) [] =
      xs.foldl (fun t e => Table.putNew t e.1 e.2) [] ++
        (ys.foldl (fun t e => Table.putNew t e.1 e.2) []).filter fun e =>
          e.1 ∉ Table.keys (xs.foldl (fun t e => Table.putNew t e.1 e.2) []) := by
  rw [List.foldl_append]
  generalize xs.foldl (fun t e => Table.putNew t e.1 e.2) [] = t
  induction ys using List.reverseRecOn with
  | nil => exact (List.append_nil t).symm
  | append_singleton ys e ih =>
    rw [List.foldl_append, List.foldl_append, ih]
    exact putNew_append_filter t _ e.1 e.2

/-- Writing entries with distinct new keys adds them all at the end, whatever is done to keys that
are present. -/
private theorem foldl_of_nodup {step : Table α → String → α → Table α}
    (hstep : ∀ t key value, key ∉ Table.keys t → step t key value = t ++ [(key, value)])
    (entries : List (String × α)) (t : Table α) (h : Table.keys (t ++ entries) |>.Nodup) :
    entries.foldl (fun t e => step t e.1 e.2) t = t ++ entries := by
  induction entries generalizing t with
  | nil => rw [List.foldl_nil, List.append_nil]
  | cons e entries ih =>
    have hnew : e.1 ∉ t.keys := by
      rw [keys_append, keys_cons, List.nodup_middle] at h
      exact fun hmem => (List.nodup_cons.mp h).1 (List.mem_append_left _ hmem)
    rw [List.append_cons] at h
    rw [List.foldl_cons, hstep t e.1 e.2 hnew, ih _ h, ← List.append_cons]

/-- Entries with distinct keys are their own table. -/
theorem ofEntries_of_nodup {t : Table α} (h : t.keys.Nodup) : ofEntries t = t :=
  foldl_of_nodup (fun _ _ value hnew => put_of_notMem hnew value) t [] h

/-- Of entries with distinct keys none is dropped. -/
theorem foldl_putNew_of_nodup {t : Table α} (h : t.keys.Nodup) :
    t.foldl (fun s e => Table.putNew s e.1 e.2) [] = t :=
  foldl_of_nodup (fun _ _ value hnew => putNew_of_notMem hnew value) t [] h

end Table

end SearchBridge
