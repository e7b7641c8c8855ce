import Mathlib.Algebra.GroupWithZero.Nat
import Mathlib.Data.List.Flatten
import Mathlib.Data.List.Nodup
import Mathlib.Data.List.Pairwise
import SearchBridge.Body.Aggregation
import SearchBridge.Proofs.Table
import SearchBridge.Response.Lifting

/-!
# The keys of facets

Aggregations are named by keys that facets spell: a facet on terms by its own name, a facet on
intervals by its name, a dash and the interval's name. All keys share one namespace, and names may
hold dashes, so keys of different facets can meet although all names differ: the interval `b-c` of a
facet `a` and the interval `c` of a facet `a-b` are both counted under `a-b-c`. This is the only way
in which keys meet. Facets with distinct names whose keys do not meet are kept apart: every
aggregation that they ask for is emitted, and no two counts are read under one key.

## Main definitions

* `Facet.lookupKeys`, `Facet.emittedKeys` : the keys that counts are read and sent under.
* `Facet.KeysMeet` : two facets spell one key.
* `KeptApart` : no aggregation is lost to another one, or answered by it.

## Main results

* `intervalKey_eq_iff` : when two joined keys are equal.
* `keptApart_iff_forall_not_keysMeet` : facets with distinct names are kept apart exactly when no
  keys meet.
* `not_forall_keptApart` : distinct names alone do not keep facets apart.
-/

namespace SearchBridge

/-! ### Joined keys -/

private theorem toList_intervalKey (a b : String) :
    (intervalKey a b).toList = a.toList ++ '-' :: b.toList := by
  simp [intervalKey]

private theorem exists_intervalKey_of_toList {a b v w : String} {cs : List Char}
    (hb : b.toList = a.toList ++ cs) (hv : '-' :: v.toList = cs ++ '-' :: w.toList) :
    (a = b ∧ v = w) ∨ ∃ s, b = intervalKey a s ∧ v = intervalKey s w := by
  cases cs with
  | nil =>
    rw [List.append_nil] at hb
    exact Or.inl ⟨String.toList_inj.mp hb.symm, String.toList_inj.mp (List.cons.inj hv).2⟩
  | cons c cs =>
    obtain ⟨rfl, htail⟩ : '-' = c ∧ v.toList = cs ++ '-' :: w.toList := List.cons_eq_cons.mp hv
    refine Or.inr ⟨String.ofList cs, String.toList_inj.mp ?_, String.toList_inj.mp ?_⟩
    · rw [toList_intervalKey, String.toList_ofList, hb]
    · rw [htail, toList_intervalKey, String.toList_ofList]

/-- Two joined keys are equal exactly if their parts are, or if one key's first part goes on into
the other key's second part. -/
theorem intervalKey_eq_iff {a b v w : String} :
    intervalKey a v = intervalKey b w ↔
      (a = b ∧ v = w) ∨ (∃ s, b = intervalKey a s ∧ v = intervalKey s w) ∨
        ∃ s, a = intervalKey b s ∧ w = intervalKey s v := by
  have hassoc (x y z : String) :
      intervalKey (intervalKey x y) z = intervalKey x (intervalKey y z) := by
    simp [intervalKey, String.append_assoc]
  constructor
  · intro h
    have h : a.toList ++ '-' :: v.toList = b.toList ++ '-' :: w.toList := by
      rw [← toList_intervalKey, ← toList_intervalKey, h]
    rcases List.append_eq_append_iff.mp h with ⟨cs, hb, hv⟩ | ⟨cs, ha, hw⟩
    · exact (exists_intervalKey_of_toList hb hv).imp_right Or.inl
    · rcases exists_intervalKey_of_toList ha hw with ⟨hab, hvw⟩ | h
      · exact Or.inl ⟨hab.symm, hvw.symm⟩
      · exact Or.inr (Or.inr h)
  · rintro (⟨rfl, rfl⟩ | ⟨s, rfl, rfl⟩ | ⟨s, rfl, rfl⟩)
    · rfl
    · exact (hassoc a s w).symm
    · exact hassoc b s v

/-- A joined key is not its own first part. -/
theorem ne_intervalKey (a s : String) : a ≠ intervalKey a s := by
  intro h
  have h := congrArg (fun t => t.toList.length) h
  simp only [toList_intervalKey, List.length_append, List.length_cons] at h
  omega

theorem intervalKey_injective (a : String) : Function.Injective (intervalKey a) := by
  intro v w h
  rcases intervalKey_eq_iff.mp h with ⟨_, h⟩ | ⟨s, h, _⟩ | ⟨s, h, _⟩
  · exact h
  · exact absurd h (ne_intervalKey a s)
  · exact absurd h (ne_intervalKey a s)

/-! ### The keys of one facet -/

namespace Facet

/-- The keys under which a response looks for the counts of a facet. -/
def lookupKeys (f : Facet) : List String := f.lookups.map Prod.fst

/-- The names of a facet's intervals. -/
def intervalIds (f : Facet) : List String :=
  match f.counted with
  | .terms _ _ => []
  | .intervals values => values.map NamedInterval.id

/-- A facet on terms. -/
def isOnTerms (f : Facet) : Bool :=
  match f.counted with
  | .terms _ _ => true
  | .intervals _ => false

/-- The keys of the aggregations that a facet asks for: its own name if it is on terms and has a
field or a filter, and one key an interval if it is on intervals. -/
def emittedKeys (catalog : Catalog) (f : Facet) : List String :=
  match f.counted with
  | .terms _ _ =>
    if f.targetField catalog ≠ "" ∨ (f.scope? catalog).isSome then [f.effectiveId] else []
  | .intervals values => values.map fun v => intervalKey f.effectiveId v.id

/-- An interval of the first facet is counted under a key of the second one: the second is on terms
and bears the joined name, or the dash of its own joined key stands further to the right. -/
def KeysMeet (f g : Facet) : Prop :=
  ∃ v ∈ f.intervalIds,
    (g.isOnTerms ∧ g.effectiveId = intervalKey f.effectiveId v) ∨
      ∃ w ∈ g.intervalIds, ∃ s, g.effectiveId = intervalKey f.effectiveId s ∧ v = intervalKey s w

theorem lookupKeys_of_terms {f : Facet} {size : Option Int32} {values : Option (List String)}
    (h : f.counted = .terms size values) : f.lookupKeys = [f.effectiveId] := by
  rw [lookupKeys, lookups, h]
  rfl

theorem lookupKeys_of_intervals {f : Facet} {values : List NamedInterval}
    (h : f.counted = .intervals values) :
    f.lookupKeys = values.map fun v => intervalKey f.effectiveId v.id := by
  rw [lookupKeys, lookups, h]
  exact List.map_map

theorem lookupKeys_of_intervalIds {f : Facet} {values : List NamedInterval}
    (h : f.counted = .intervals values) :
    f.lookupKeys = f.intervalIds.map (intervalKey f.effectiveId) := by
  rw [lookupKeys_of_intervals h, intervalIds, h, List.map_map]
  rfl

/-- A facet on terms is looked up under its name, and one on intervals under its joined keys. -/
theorem mem_lookupKeys_iff {f : Facet} {key : String} :
    key ∈ f.lookupKeys ↔ (f.isOnTerms ∧ key = f.effectiveId) ∨
      ∃ v ∈ f.intervalIds, key = intervalKey f.effectiveId v := by
  cases h : f.counted with
  | terms =>
    rw [lookupKeys_of_terms h]
    simp [isOnTerms, intervalIds, h]
  | intervals =>
    rw [lookupKeys_of_intervalIds h]
    simp [isOnTerms, h, eq_comm]

/-- A facet has distinct keys exactly if its intervals have distinct names. -/
theorem nodup_lookupKeys_iff {f : Facet} : f.lookupKeys.Nodup ↔ f.intervalIds.Nodup := by
  cases h : f.counted with
  | terms =>
    rw [lookupKeys_of_terms h, intervalIds, h]
    exact iff_of_true (List.nodup_singleton _) List.nodup_nil
  | intervals =>
    rw [lookupKeys_of_intervalIds h]
    exact List.nodup_map_iff (intervalKey_injective _)

/-- Facets whose keys meet share a key. -/
theorem KeysMeet.exists_mem_lookupKeys {f g : Facet} (h : f.KeysMeet g) :
    ∃ key, key ∈ f.lookupKeys ∧ key ∈ g.lookupKeys := by
  obtain ⟨v, hv, h⟩ := h
  refine ⟨intervalKey f.effectiveId v, mem_lookupKeys_iff.mpr (Or.inr ⟨v, hv, rfl⟩),
    mem_lookupKeys_iff.mpr ?_⟩
  rcases h with ⟨hg, hid⟩ | ⟨w, hw, s, hid, hs⟩
  · exact Or.inl ⟨hg, hid.symm⟩
  · exact Or.inr ⟨w, hw, intervalKey_eq_iff.mpr (Or.inr (Or.inl ⟨s, hid, hs⟩))⟩

/-- Facets with different names share a key only if their keys meet. -/
theorem keysMeet_of_mem_lookupKeys {f g : Facet} {key : String}
    (hid : f.effectiveId ≠ g.effectiveId) (hf : key ∈ f.lookupKeys) (hg : key ∈ g.lookupKeys) :
    f.KeysMeet g ∨ g.KeysMeet f := by
  rcases mem_lookupKeys_iff.mp hf with ⟨hterms, rfl⟩ | ⟨v, hv, rfl⟩
  · rcases mem_lookupKeys_iff.mp hg with ⟨_, heq⟩ | ⟨w, hw, heq⟩
    · exact absurd heq hid
    · exact Or.inr ⟨w, hw, Or.inl ⟨hterms, heq⟩⟩
  · rcases mem_lookupKeys_iff.mp hg with ⟨hterms, heq⟩ | ⟨w, hw, heq⟩
    · exact Or.inl ⟨v, hv, Or.inl ⟨hterms, heq.symm⟩⟩
    · rcases intervalKey_eq_iff.mp heq with ⟨heq, _⟩ | ⟨s, heq, hs⟩ | ⟨s, heq, hs⟩
      · exact absurd heq hid
      · exact Or.inl ⟨v, hv, Or.inr ⟨w, hw, s, heq, hs⟩⟩
      · exact Or.inr ⟨w, hw, Or.inr ⟨v, hv, s, heq, hs⟩⟩

/-- The keys of a facet do not meet each other. -/
theorem not_keysMeet_self (f : Facet) : ¬f.KeysMeet f := by
  rintro ⟨v, hv, ⟨_, h⟩ | ⟨w, _, s, h, _⟩⟩
  · exact ne_intervalKey _ _ h
  · exact ne_intervalKey _ _ h

/-- The aggregations of a facet have the keys that it asks for. -/
theorem keys_entries (catalog : Catalog) (f : Facet) :
    Table.keys (f.entries catalog) = f.emittedKeys catalog := by
  cases h : f.counted with
  | terms size values =>
    simp only [entries, emittedKeys, h, termsAggregation?, String.isEmpty_iff]
    cases f.scope? catalog with
    | none => by_cases htarget : f.targetField catalog = "" <;> simp [htarget]
    | some scope => simp
  | intervals values =>
    simp only [entries, emittedKeys, h]
    exact List.map_map

/-- Every aggregation is emitted under a key that the response looks up. -/
theorem emittedKeys_sublist (catalog : Catalog) (f : Facet) :
    (f.emittedKeys catalog).Sublist f.lookupKeys := by
  cases h : f.counted with
  | terms =>
    simp only [emittedKeys, h, lookupKeys_of_terms h]
    split
    · exact List.Sublist.refl _
    · exact List.nil_sublist _
  | intervals =>
    simp only [emittedKeys, h, lookupKeys_of_intervals h]
    exact List.Sublist.refl _

end Facet

/-! ### Facets that are kept apart -/

section KeptApart

variable (catalog : Catalog) (facets : List Facet)

/-- No aggregation of the facets is lost to another one or answered by it: the emitted aggregations
have exactly the keys that the facets ask for, in order and each once, and no two counts are looked
up under one key. -/
structure KeptApart : Prop where
  keys_eq : Table.keys ((aggregations? catalog facets).getD []) =
    facets.flatMap (Facet.emittedKeys catalog)
  length_eq : ((aggregations? catalog facets).getD []).length =
    (facets.map fun f => (f.emittedKeys catalog).length).sum
  nodup_emitted : (Table.keys ((aggregations? catalog facets).getD [])).Nodup
  nodup_lookups : (facets.flatMap Facet.lookupKeys).Nodup

/-- The emitted aggregations are those of the table of aggregations. -/
theorem getD_aggregations? : (aggregations? catalog facets).getD [] =
    aggregationTable catalog facets := by
  rw [aggregations?]
  split
  · next h => rw [h]; rfl
  · rfl

variable {facets}

/-- The aggregations of facets have the keys that the facets ask for. -/
theorem keys_flatMap_entries (facets : List Facet) :
    Table.keys (facets.flatMap (Facet.entries catalog)) =
      facets.flatMap (Facet.emittedKeys catalog) := by
  rw [Table.keys, List.map_flatMap]
  exact congrArg (facets.flatMap ·) (funext fun f => f.keys_entries catalog)

/-- If no key is looked up twice, no key is asked for twice. -/
theorem nodup_flatMap_emittedKeys (h : (facets.flatMap Facet.lookupKeys).Nodup) :
    (facets.flatMap (Facet.emittedKeys catalog)).Nodup :=
  h.sublist (List.Sublist.flatMap_right facets fun f _ => f.emittedKeys_sublist catalog)

/-- If no key is looked up twice, all aggregations of the facets are emitted. -/
theorem getD_aggregations?_of_nodup (h : (facets.flatMap Facet.lookupKeys).Nodup) :
    (aggregations? catalog facets).getD [] = facets.flatMap (Facet.entries catalog) := by
  have hnodup : (Table.keys (facets.flatMap (Facet.entries catalog))).Nodup := by
    rw [keys_flatMap_entries]
    exact nodup_flatMap_emittedKeys catalog h
  rw [getD_aggregations?, aggregationTable]
  exact Table.foldl_putNew_of_nodup hnodup

/-- If no key is looked up twice, facets that are looked up under one key are the same. -/
theorem eq_of_mem_lookupKeys (h : (facets.flatMap Facet.lookupKeys).Nodup) {f g : Facet}
    {key : String} (hf : f ∈ facets) (hg : g ∈ facets) (hkeyf : key ∈ f.lookupKeys)
    (hkeyg : key ∈ g.lookupKeys) : f = g := by
  obtain ⟨_, hdisjoint⟩ := List.nodup_flatMap.mp h
  have hsymm : Std.Symm fun f g : Facet => f.lookupKeys.Disjoint g.lookupKeys :=
    ⟨fun _ _ => List.disjoint_symm⟩
  by_contra hne
  exact hdisjoint.forall hf hg hne hkeyf hkeyg

/-- Facets are kept apart exactly if no key is looked up twice. -/
theorem keptApart_iff_nodup :
    KeptApart catalog facets ↔ (facets.flatMap Facet.lookupKeys).Nodup := by
  refine ⟨KeptApart.nodup_lookups, fun h => ?_⟩
  have hkeys : Table.keys ((aggregations? catalog facets).getD []) =
      facets.flatMap (Facet.emittedKeys catalog) := by
    rw [getD_aggregations?_of_nodup catalog h, keys_flatMap_entries]
  refine ⟨hkeys, ?_, hkeys ▸ nodup_flatMap_emittedKeys catalog h, h⟩
  rw [← List.length_flatMap, ← hkeys, Table.keys, List.length_map]

/-- No key is looked up twice for facets with distinct names, whose intervals have distinct names,
exactly when no keys of theirs meet. -/
theorem nodup_flatMap_lookupKeys_iff (hids : (facets.map Facet.effectiveId).Nodup)
    (hvalues : ∀ f ∈ facets, f.intervalIds.Nodup) :
    (facets.flatMap Facet.lookupKeys).Nodup ↔ ∀ f ∈ facets, ∀ g ∈ facets, ¬f.KeysMeet g := by
  rw [List.nodup_flatMap]
  constructor
  · rintro ⟨_, hdisjoint⟩
    have hmeet : facets.Pairwise fun f g => ¬f.KeysMeet g ∧ ¬g.KeysMeet f := by
      refine hdisjoint.imp fun {f g} h => ⟨fun hmeet => ?_, fun hmeet => ?_⟩
      · obtain ⟨key, hf, hg⟩ := hmeet.exists_mem_lookupKeys
        exact h hf hg
      · obtain ⟨key, hg, hf⟩ := hmeet.exists_mem_lookupKeys
        exact h hf hg
    have hsymm : Std.Symm fun f g : Facet => ¬f.KeysMeet g ∧ ¬g.KeysMeet f := ⟨fun _ _ => And.symm⟩
    have hall := hmeet.forall_of_forall fun f _ => ⟨f.not_keysMeet_self, f.not_keysMeet_self⟩
    exact fun f hf g hg => (hall hf hg).1
  · intro hmeet
    refine ⟨fun f hf => Facet.nodup_lookupKeys_iff.mpr (hvalues f hf), ?_⟩
    refine (List.pairwise_map.mp hids).imp_of_mem fun {f g} hf hg hid key hkeyf hkeyg => ?_
    rcases Facet.keysMeet_of_mem_lookupKeys hid hkeyf hkeyg with h | h
    · exact hmeet f hf g hg h
    · exact hmeet g hg f hf h

/-- **When facets are kept apart.** Facets with distinct names, whose intervals have distinct names
within each facet, are kept apart exactly when no keys of theirs meet. -/
theorem keptApart_iff_forall_not_keysMeet (hids : (facets.map Facet.effectiveId).Nodup)
    (hvalues : ∀ f ∈ facets, f.intervalIds.Nodup) :
    KeptApart catalog facets ↔ ∀ f ∈ facets, ∀ g ∈ facets, ¬f.KeysMeet g :=
  (keptApart_iff_nodup catalog).trans (nodup_flatMap_lookupKeys_iff hids hvalues)

/-- Dashes in names are harmless as long as no joined key is spelled twice. -/
theorem keptApart_iff_of_dashed_names :
    let facets : List Facet := [
      { id := some "a", counted := .intervals [{ id := "b-c" }, { id := "b" }] },
      { id := some "a-b", counted := .intervals [{ id := "d" }] },
      { id := some "a-c", fieldName := "Brand", counted := .terms none none }]
    (facets.map Facet.effectiveId).Nodup ∧ (∀ f ∈ facets, f.intervalIds.Nodup) ∧
      (KeptApart .empty facets ↔ ∀ f ∈ facets, ∀ g ∈ facets, ¬f.KeysMeet g) :=
  ⟨by decide, by decide, keptApart_iff_forall_not_keysMeet .empty (by decide) (by decide)⟩

/-- Distinct names do not keep facets apart: the interval `b-c` of the facet `a` and the interval
`c` of the facet `a-b` are counted under the same key, and only the first aggregation is emitted. -/
theorem not_forall_keptApart : ¬∀ (catalog : Catalog) (facets : List Facet),
    (facets.map Facet.effectiveId).Nodup → (∀ f ∈ facets, f.intervalIds.Nodup) →
      KeptApart catalog facets := by
  intro h
  have hkept := h .empty [
    { id := some "a", fieldName := "Price", counted := .intervals [{ id := "b-c" }] },
    { id := some "a-b", fieldName := "Size", counted := .intervals [{ id := "c" }] }]
    (by decide) (by decide)
  exact absurd hkept.nodup_lookups (by decide)

end KeptApart

end SearchBridge
