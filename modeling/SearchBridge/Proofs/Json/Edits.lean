import SearchBridge.Proofs.Json.MemberOrder
import SearchBridge.Proofs.Json.ReadBack

/-!
# Edits of objects

A structure is written as an object with known members, and its JSON may be edited without changing
what it means: members may change places, members with unknown names may come in, and a member that
holds its default may be left out. The same may be done to the structures inside. A schema says
which members a structure has, what they may be left out for, and which of them hold structures.

A record is read in the same way after such an edit if the updates of its fields commute and the
update of a default leaves the initial record as it is. A tagged value is read in the same way if
its content without the tag is, because no edit touches the tag.

## Main definitions

* `Json.Schema` : the members of structures.
* `Json.Schema.Edit` : one edit somewhere inside a structure.
* `Json.EntryEdit` : one edit of the entries of an object.
* `Json.Tolerates` : a reader of entries that edits do not disturb.
* `Json.RecordFits` : fields of a record that fit the members of a structure.

## Main results

* `Json.tolerates_record` : a record whose fields fit is read after edits.
* `Json.tagged_of_entryEdit` : so is a tagged value.
* `Json.Schema.Edit.alike` : an edit somewhere inside a structure, from edits of entries.
-/

namespace SearchBridge

namespace Json

open Raw

variable {σ : Type} {fields : List (RecordField σ)}

/-! ### Schemas -/

/-- What stands under a member: nothing that may be edited, a structure, or a list of structures. -/
inductive Content (π : Type) where
  | plain
  | one (part : π)
  | many (part : π)

/-- A member of a structure: its name, the value for which it may be left out, and what stands under
it. -/
structure Member (π : Type) where
  name : String
  default : Option Json := none
  content : Content π := .plain

/-- The members of structures. A tagged one has further members that depend on the entry for its
kind. -/
structure Schema (π : Type) where
  isTagged : π → Bool
  members : π → List (String × Json) → List (Member π)

variable {π : Type}

/-- The names with a meaning in an object with the given entries. -/
def Schema.knownNames (S : Schema π) (part : π) (entries : List (String × Json)) : List String :=
  (if S.isTagged part then [tagKey] else []) ++ (S.members part entries).map (·.name)

/-- One edit of the JSON of a structure, in its own object or in that of a structure inside it. -/
inductive Schema.Edit (S : Schema π) : π → Json → Json → Prop
  /-- Entries change places. -/
  | permute {part : π} {s t : List (String × Json)} (hperm : s.Perm t) :
      Edit S part (.object s) (.object t)
  /-- An entry of an unknown name comes in. -/
  | add {part : π} {s t : List (String × Json)} (key : String) (value : Json)
      (hkey : key ∉ S.knownNames part (s ++ t)) :
      Edit S part (.object (s ++ t)) (.object (s ++ (key, value) :: t))
  /-- An entry that holds the default of its member is left out. -/
  | drop {part : π} {s t : List (String × Json)} {m : Member π} {value : Json}
      (hmem : m ∈ S.members part (s ++ (m.name, value) :: t)) (hdefault : m.default = some value) :
      Edit S part (.object (s ++ (m.name, value) :: t)) (.object (s ++ t))
  /-- A structure under a member is edited. -/
  | one {part part' : π} {s t : List (String × Json)} {m : Member π} {v w : Json}
      (hmem : m ∈ S.members part (s ++ (m.name, v) :: t)) (hcontent : m.content = .one part')
      (hedit : Edit S part' v w) :
      Edit S part (.object (s ++ (m.name, v) :: t)) (.object (s ++ (m.name, w) :: t))
  /-- A structure in the list under a member is edited. -/
  | many {part part' : π} {s t : List (String × Json)} {m : Member π} {l r : List Json}
      {v w : Json} (hmem : m ∈ S.members part (s ++ (m.name, .array (l ++ v :: r)) :: t))
      (hcontent : m.content = .many part') (hedit : Edit S part' v w) :
      Edit S part (.object (s ++ (m.name, .array (l ++ v :: r)) :: t))
        (.object (s ++ (m.name, .array (l ++ w :: r)) :: t))

/-- What stands under a member before and after an edit, where structures are edited as `R` says. -/
def Content.Alike (R : π → Json → Json → Prop) : Content π → Json → Json → Prop
  | .plain, _, _ => False
  | .one part, v, w => v.isObject ∧ w.isObject ∧ R part v w
  | .many part, v, w => ∃ (vs ws : List Json) (v' w' : Json),
      v = .array (vs ++ v' :: ws) ∧ w = .array (vs ++ w' :: ws) ∧ R part v' w'

/-- One edit of the entries of an object, where `known` names have a meaning. -/
inductive EntryEdit (R : π → Json → Json → Prop) (known : List String) (ms : List (Member π)) :
    List (String × Json) → List (String × Json) → Prop
  | permute {s t} (hperm : s.Perm t) : EntryEdit R known ms s t
  | add {s t} (key : String) (value : Json) (hkey : key ∉ known) :
      EntryEdit R known ms (s ++ t) (s ++ (key, value) :: t)
  | drop {s t m value} (hmem : m ∈ ms) (hdefault : m.default = some value) :
      EntryEdit R known ms (s ++ (m.name, value) :: t) (s ++ t)
  | change {s t m v w} (hmem : m ∈ ms) (halike : m.content.Alike R v w) :
      EntryEdit R known ms (s ++ (m.name, v) :: t) (s ++ (m.name, w) :: t)

theorem Schema.Edit.isObject {S : Schema π} {part : π} {v w : Json} (h : S.Edit part v w) :
    v.isObject ∧ w.isObject := by
  cases h <;> exact ⟨rfl, rfl⟩

/-- A relation that the edits of entries have, if they have it inside, all edits have. -/
theorem Schema.Edit.alike {S : Schema π} {R : π → Json → Json → Prop}
    (hR : ∀ part s t, EntryEdit R (S.knownNames part s) (S.members part s) s t →
      R part (.object s) (.object t)) {part : π} {v w : Json} (h : S.Edit part v w) :
    R part v w := by
  induction h with
  | permute hperm => exact hR _ _ _ (.permute hperm)
  | add key value hkey => exact hR _ _ _ (.add key value hkey)
  | drop hmem hdefault => exact hR _ _ _ (.drop hmem hdefault)
  | one hmem hcontent hedit ih =>
    refine hR _ _ _ (.change hmem ?_)
    rw [hcontent]
    exact ⟨hedit.isObject.1, hedit.isObject.2, ih⟩
  | many hmem hcontent _ ih =>
    refine hR _ _ _ (.change hmem ?_)
    rw [hcontent]
    exact ⟨_, _, _, _, rfl, rfl, ih⟩

/-! ### Readers that edits do not disturb -/

/-- Whatever the reader makes of entries, it makes of the entries after an edit. -/
def Tolerates (R : π → Json → Json → Prop) (known : List String) (ms : List (Member π)) {α : Type}
    (read : List (String × Json) → Option α) : Prop :=
  ∀ s t, EntryEdit R known ms s t → ∀ x, read s = some x → read t = some x

variable {R : π → Json → Json → Prop} {known : List String} {ms : List (Member π)} {α β : Type}

theorem Tolerates.map {read : List (String × Json) → Option α} (h : Tolerates R known ms read)
    (f : α → β) : Tolerates R known ms fun s => (read s).map f := by
  intro s t hedit y hy
  obtain ⟨x, hx, rfl⟩ := Option.map_eq_some_iff.mp hy
  exact Option.map_eq_some_iff.mpr ⟨x, h s t hedit x hx, rfl⟩

/-- Whatever one value is read as, the other is read as. -/
def ReadsAs (read : Raw → Except Error α) (v w : Json) : Prop :=
  ∀ x, read v.raw = .ok x → read w.raw = .ok x

/-- In lists whose items correspond, an item may be replaced by one that fits what it fits. -/
theorem forall₂_replace {P : β → α → Prop} {v w : β} (h : ∀ x, P v x → P w x) :
    (vs : List β) → {ws : List β} → {xs : List α} → List.Forall₂ P (vs ++ v :: ws) xs →
      List.Forall₂ P (vs ++ w :: ws) xs
  | [], _, _, .cons hv hws => .cons (h _ hv) hws
  | _ :: vs, _, _, .cons hv hvs => .cons hv (forall₂_replace h vs hvs)

theorem ne_null_of_isObject {v : Json} (h : v.isObject) : v ≠ .null := by
  rintro rfl
  cases h

section Contents

variable {part : π} {read : Raw → Except Error α} (h : ∀ v w, R part v w → ReadsAs read v w)
include h

/-- An optional structure under a member is read after edits. -/
theorem Content.readsAs_option {v w : Json} (halike : (Content.one part).Alike R v w) :
    ReadsAs (readOption read) v w := by
  obtain ⟨hv, hw, halike⟩ := halike
  intro x hx
  rw [readOption_of_ne_null (ne_null_of_isObject hv)] at hx
  obtain ⟨y, hy, rfl⟩ := exists_of_map_eq_ok hx
  rw [readOption_of_ne_null (ne_null_of_isObject hw), h v w halike y hy]
  rfl

/-- A list of structures under a member is read after edits. -/
theorem Content.readsAs_list {v w : Json} (halike : (Content.many part).Alike R v w) :
    ReadsAs (readList read) v w := by
  obtain ⟨vs, ws, v', w', rfl, rfl, halike⟩ := halike
  intro xs hxs
  rw [raw, readList, rawItems_eq_map, mapM_eq_ok_iff, List.forall₂_map_left_iff] at hxs ⊢
  exact forall₂_replace (fun x => h v' w' halike x) vs hxs

end Contents

section Records

/-- A field of a record fits a member: it has the member's name, it makes of edited JSON what it
made of the JSON before, and it may be left out for a default that changes nothing. -/
structure FieldFits (R : π → Json → Json → Prop) (initial : σ) (f : RecordField σ) (m : Member π) :
    Prop where
  name : f.name = m.name
  default : ∀ d, m.default = some d →
    f.required = false ∧ ∃ u, f.update d.raw = .ok u ∧ u initial = initial
  content : ∀ v w, m.content.Alike R v w → ReadsAs f.update v w

/-- The fields of a record fit the members of a structure, one by one, and their updates commute. -/
structure RecordFits (R : π → Json → Json → Prop) (fields : List (RecordField σ)) (initial : σ)
    (ms : List (Member π)) : Prop where
  fits : List.Forall₂ (FieldFits R initial) fields ms
  distinct : (ms.map (·.name)).Nodup
  commute : fields.Pairwise RecordField.Commutes

variable {initial : σ}

/-- A field that may be left out fits a member with a default. -/
theorem FieldFits.optional {name : String} {read : Raw → Except Error α} {set : α → σ → σ}
    {d : Json} {x : α} {content : Content π} (hread : read d.raw = .ok x)
    (hset : set x initial = initial)
    (hcontent : ∀ {v w}, content.Alike R v w → ReadsAs read v w) :
    FieldFits R initial (.optional name read set) ⟨name, some d, content⟩ where
  name := rfl
  default := by
    rintro _ ⟨⟩
    exact ⟨rfl, set x, congrArg (Except.map set) hread, hset⟩
  content := by
    intro v w halike u hu
    obtain ⟨y, hy, rfl⟩ := RecordField.exists_of_update_optional hu
    exact congrArg (Except.map set) (hcontent halike y hy)

/-- A field that has to be present fits a member without a default. -/
theorem FieldFits.mandatory {name : String} {read : Raw → Except Error α} {set : α → σ → σ}
    {content : Content π} (hcontent : ∀ {v w}, content.Alike R v w → ReadsAs read v w) :
    FieldFits R initial (.mandatory name read set) ⟨name, none, content⟩ where
  name := rfl
  default := nofun
  content := by
    intro v w halike u hu
    obtain ⟨y, hy, rfl⟩ := RecordField.exists_of_update_mandatory hu
    exact congrArg (Except.map set) (hcontent halike y hy)

theorem names_of_forall₂ {fields : List (RecordField σ)} {ms : List (Member π)}
    (h : List.Forall₂ (FieldFits R initial) fields ms) : fields.map (·.name) = ms.map (·.name) := by
  induction h with
  | nil => rfl
  | cons hfits _ ih => rw [List.map_cons, List.map_cons, hfits.name, ih]

/-- No field is found under a name that no member has. -/
theorem RecordFits.find?_eq_none (h : RecordFits R fields initial ms) {key : String}
    (hkey : key ∉ ms.map (·.name)) : fields.find? (·.name == key) = none := by
  rw [← names_of_forall₂ h.fits] at hkey
  refine List.find?_eq_none.mpr fun f hf heq => hkey ?_
  exact beq_iff_eq.mp heq ▸ List.mem_map_of_mem hf

/-- The field found under the name of a member fits it, and no other field has this name. -/
theorem RecordFits.exists_find? (h : RecordFits R fields initial ms) {m : Member π} (hm : m ∈ ms) :
    ∃ f, fields.find? (·.name == m.name) = some f ∧ FieldFits R initial f m ∧
      ∀ g ∈ fields, g.name = m.name → g = f := by
  have hdistinct : (fields.map (·.name)).Nodup := names_of_forall₂ h.fits ▸ h.distinct
  obtain ⟨f, hf, hfits⟩ : ∃ f ∈ fields, FieldFits R initial f m := by
    obtain ⟨i, hi, rfl⟩ := List.mem_iff_getElem.mp hm
    have hlength := h.fits.length_eq
    exact ⟨fields[i], List.getElem_mem _, h.fits.get (hlength ▸ hi) hi⟩
  rw [← hfits.name]
  exact ⟨f, find?_of_mem hdistinct hf, hfits,
    fun g hg hname => List.inj_on_of_nodup_map hdistinct hg hf hname⟩

mutual

/-- Values can be passed over. -/
theorem skipError?_raw : (v : Json) → v.raw.skipError? = none
  | .null | .bool _ | .number _ | .string _ => rfl
  | .array items => by rw [raw, skipError?, skipItems?_rawItems items]
  | .object entries => by rw [raw, skipError?, skipMembers?_rawEntries entries]

theorem skipItems?_rawItems : (items : List Json) → skipItems? (rawItems items) = none
  | [] => rfl
  | v :: rest => by
    rw [rawItems, skipItems?, skipError?_raw v, skipItems?_rawItems rest, Option.or_none]

theorem skipMembers?_rawEntries : (entries : List (String × Json)) →
    skipMembers? (rawEntries entries) = none
  | [] => rfl
  | (k, v) :: rest => by
    rw [rawEntries, skipMembers?, skipError?_raw v, skipMembers?_rawEntries rest, Option.or_none]

end

theorem rawEntries_perm {s t : List (String × Json)} (h : s.Perm t) :
    (rawEntries s).Perm (rawEntries t) := by
  rw [rawEntries_eq_map, rawEntries_eq_map]
  exact h.map _

theorem record?_object_eq_some_iff {fields : List (RecordField σ)} {s : List (String × Json)}
    {x : σ} : (Json.object s).record? fields initial = some x ↔
      readFields fields (rawEntries s) [] initial = .ok x := by
  have hread : readRecord fields initial (Json.object s).raw =
      readFields fields (rawEntries s) [] initial := rfl
  rw [record?, hread]
  cases readFields fields (rawEntries s) [] initial <;> simp [Except.toOption]

/-- **Records are read after edits.** If the fields of a record fit the members of a structure, then
an edit of its entries leaves the record that is read as it is. -/
theorem tolerates_record (h : RecordFits R fields initial ms) :
    Tolerates R (ms.map (·.name)) ms fun s => (Json.object s).record? fields initial := by
  intro s t hedit x hx
  rw [record?_object_eq_some_iff] at hx ⊢
  -- Every edit but the first one is made to an entry that is brought to the front.
  have hmove {s t : List (String × Json)} (hperm : s.Perm t)
      (hs : readFields fields (rawEntries s) [] initial = .ok x) :
      readFields fields (rawEntries t) [] initial = .ok x :=
    readFields_perm h.commute (rawEntries_perm hperm) hs
  cases hedit with
  | permute hperm => exact hmove hperm hx
  | add key value hkey =>
    refine hmove List.perm_middle.symm ?_
    exact readFields_cons_iff.mpr
      ⟨_, _, .pass (h.find?_eq_none hkey) (skipError?_raw value), hx⟩
  | @drop _ _ m value hmem hdefault =>
    obtain ⟨f, hfind, hfits, hunique⟩ := h.exists_find? hmem
    obtain ⟨hoptional, u, hupdate, hinitial⟩ := hfits.default value hdefault
    obtain ⟨u', hupdate', hx⟩ := (readFields_known_iff hfind).mp (hmove List.perm_middle hx)
    rw [hupdate] at hupdate'
    rw [← Except.ok.inj hupdate', hinitial] at hx
    -- The field that was left out is the only one seen, and it is not required.
    refine readFields_of_seen _ (List.nil_subset _) (fun g hg hrequired hname => ?_) hx
    rw [hunique g hg (List.mem_singleton.mp hname), hoptional] at hrequired
    cases hrequired
  | change hmem halike =>
    obtain ⟨f, hfind, hfits, -⟩ := h.exists_find? hmem
    obtain ⟨u, hupdate, hx⟩ := (readFields_known_iff hfind).mp (hmove List.perm_middle hx)
    refine hmove List.perm_middle.symm ((readFields_known_iff hfind).mpr ⟨u, ?_, hx⟩)
    exact hfits.content _ _ halike u hupdate

/-- What is read as a record, is read as that record after an edit. -/
theorem RecordFits.readsAs (h : RecordFits R fields initial ms) {s t : List (String × Json)}
    (hedit : EntryEdit R (ms.map (·.name)) ms s t) :
    ReadsAs (readRecord fields initial) (.object s) (.object t) := fun x hx =>
  record?_object_eq_some_iff.mp
    (tolerates_record h s t hedit x (record?_object_eq_some_iff.mpr hx))

end Records

section SoleValues

/-- Reads the only entry of a name: a value that stands for none if there is no such entry, and
nothing if there are several. -/
def soleValue? (name : String) (absent : α) (read : Json → Option α) (s : List (String × Json)) :
    Option α :=
  match s.filter (·.1 == name) with
  | [] => some absent
  | [e] => read e.2
  | _ => none

variable {name : String} {absent : α} {read : Json → Option α}

theorem soleValue?_eq_some_iff {s : List (String × Json)} {x : α} :
    soleValue? name absent read s = some x ↔
      s.filter (·.1 == name) = [] ∧ absent = x ∨
        ∃ e, s.filter (·.1 == name) = [e] ∧ read e.2 = some x := by
  rw [soleValue?]
  split
  · next h => simp [h]
  · next e h => simp [h]
  · next hnone hsole =>
    refine iff_of_false (fun h => nomatch h) ?_
    rintro (⟨h, -⟩ | ⟨e, h, -⟩)
    · exact hnone h
    · exact hsole e h

theorem soleValue?_cons (key : String) (v : Json) (rest : List (String × Json)) :
    soleValue? name absent read ((key, v) :: rest) =
      if key = name then if name ∈ Table.keys rest then none else read v
      else soleValue? name absent read rest := by
  by_cases hkey : key = name
  · rw [if_pos hkey, soleValue?, List.filter_cons_of_pos (by simpa using hkey)]
    cases hrest : rest.filter (·.1 == name) with
    | nil =>
      rw [List.filter_eq_nil_iff] at hrest
      have hnew : name ∉ Table.keys rest := by
        intro hmem
        obtain ⟨e, he, heq⟩ := List.mem_map.mp hmem
        exact hrest e he (beq_iff_eq.mpr heq)
      rw [if_neg hnew]
    | cons e rest' =>
      have he : e ∈ rest.filter (·.1 == name) := hrest ▸ List.mem_cons_self
      obtain ⟨he, heq⟩ := List.mem_filter.mp he
      have hmem : name ∈ Table.keys rest := List.mem_map.mpr ⟨e, he, beq_iff_eq.mp heq⟩
      rw [if_pos hmem]
  · rw [if_neg hkey, soleValue?, soleValue?, List.filter_cons_of_neg (by simpa using hkey)]

/-- The tag is not the only entry of another name. -/
theorem soleValue?_untagged (hname : name ≠ tagKey) (s : List (String × Json)) :
    soleValue? name absent read (s.filter (·.1 != tagKey)) = soleValue? name absent read s := by
  have hfilter : (s.filter (·.1 != tagKey)).filter (·.1 == name) = s.filter (·.1 == name) := by
    rw [List.filter_filter]
    refine List.filter_congr fun e _ => ?_
    by_cases heq : e.1 = name <;> simp [heq, hname]
  rw [soleValue?, soleValue?, hfilter]

/-- A structure with a single member is read after edits if its default stands for none. -/
theorem tolerates_soleValue {m : Member π}
    (hdefault : ∀ d, m.default = some d → read d = some absent)
    (hcontent : ∀ v w, m.content.Alike R v w → ∀ x, read v = some x → read w = some x) :
    Tolerates R [m.name] [m] (soleValue? m.name absent read) := by
  intro s t hedit x hx
  -- An entry of the member's name is the only one.
  have hsole {s t : List (String × Json)} {v : Json} {e : String × Json}
      (h : (s ++ (m.name, v) :: t).filter (·.1 == m.name) = [e]) :
      s.filter (·.1 == m.name) = [] ∧ t.filter (·.1 == m.name) = [] ∧ e = (m.name, v) := by
    rw [List.filter_append, List.filter_cons_of_pos (by simp), List.append_eq_singleton_iff] at h
    obtain ⟨hs, ht⟩ | ⟨-, ht⟩ := h
    · exact ⟨hs, (List.cons.inj ht).2, (List.cons.inj ht).1.symm⟩
    · cases ht
  have hpresent {s t : List (String × Json)} {v : Json} :
      (s ++ (m.name, v) :: t).filter (·.1 == m.name) ≠ [] := by simp
  rw [soleValue?_eq_some_iff] at hx ⊢
  cases hedit with
  | permute hperm =>
    have hfilter := hperm.filter (·.1 == m.name)
    obtain ⟨hs, hx⟩ | ⟨e, hs, hx⟩ := hx
    · rw [hs, List.nil_perm] at hfilter
      exact .inl ⟨hfilter, hx⟩
    · rw [hs, List.singleton_perm] at hfilter
      exact .inr ⟨e, hfilter.symm, hx⟩
  | add key value hkey =>
    rw [List.filter_append, List.filter_cons_of_neg, ← List.filter_append]
    · exact hx
    · rw [beq_iff_eq]
      exact fun heq => hkey (List.mem_singleton.mpr heq)
  | drop hmem hd =>
    cases List.mem_singleton.mp hmem
    obtain ⟨hnone, -⟩ | ⟨e, hone, hx⟩ := hx
    · exact absurd hnone hpresent
    · obtain ⟨hs, ht, rfl⟩ := hsole hone
      refine .inl ⟨?_, Option.some.inj ((hdefault _ hd).symm.trans hx)⟩
      rw [List.filter_append, hs, ht, List.append_nil]
  | change hmem halike =>
    cases List.mem_singleton.mp hmem
    obtain ⟨hnone, -⟩ | ⟨e, hone, hx⟩ := hx
    · exact absurd hnone hpresent
    · obtain ⟨hs, ht, rfl⟩ := hsole hone
      refine .inr ⟨(m.name, _), ?_, hcontent _ _ halike x hx⟩
      rw [List.filter_append, List.filter_cons_of_pos (by simp), hs, ht, List.nil_append]

end SoleValues

section Tags

/-- The entries other than the tag are edited like entries of a structure without a tag. -/
theorem EntryEdit.untagged (htag : ∀ m ∈ ms, m.name ≠ tagKey) {s t : List (String × Json)}
    (h : EntryEdit R (tagKey :: known) ms s t) :
    EntryEdit R known ms (s.filter (·.1 != tagKey)) (t.filter (·.1 != tagKey)) := by
  have hkeep {s t : List (String × Json)} {key : String} {v : Json} (hne : key ≠ tagKey) :
      (s ++ (key, v) :: t).filter (·.1 != tagKey) =
        s.filter (·.1 != tagKey) ++ (key, v) :: t.filter (·.1 != tagKey) := by
    rw [List.filter_append, List.filter_cons_of_pos (by simpa using hne)]
  cases h with
  | permute hperm => exact .permute (hperm.filter _)
  | add key value hkey =>
    obtain ⟨hne, hkey⟩ := not_or.mp (mt List.mem_cons.mpr hkey)
    rw [List.filter_append, hkeep hne]
    exact .add key value hkey
  | drop hmem hdefault =>
    rw [hkeep (htag _ hmem), List.filter_append]
    exact .drop hmem hdefault
  | change hmem halike =>
    rw [hkeep (htag _ hmem), hkeep (htag _ hmem)]
    exact .change hmem halike

/-- No edit adds, drops or changes a tag. -/
theorem EntryEdit.tags_perm (htag : ∀ m ∈ ms, m.name ≠ tagKey) {s t : List (String × Json)}
    (h : EntryEdit R (tagKey :: known) ms s t) :
    (s.filter (·.1 == tagKey)).Perm (t.filter (·.1 == tagKey)) := by
  have hskip {s t : List (String × Json)} {key : String} {v : Json} (hne : key ≠ tagKey) :
      (s ++ (key, v) :: t).filter (·.1 == tagKey) = (s ++ t).filter (·.1 == tagKey) := by
    rw [List.filter_append, List.filter_append, List.filter_cons_of_neg (by simpa using hne)]
  cases h with
  | permute hperm => exact hperm.filter _
  | add key value hkey => rw [hskip (not_or.mp (mt List.mem_cons.mpr hkey)).1]
  | drop hmem _ => rw [hskip (htag _ hmem)]
  | change hmem _ => rw [hskip (htag _ hmem), hskip (htag _ hmem)]

variable {kinds : List String} {isNested : Bool} {kind : String}

theorem kindOf?_eq_some_iff {s : List (String × Json)} : kindOf? kinds isNested s = some kind ↔
    ∃ e, s.filter (·.1 == tagKey) = [e] ∧ e.2.kind? kinds isNested = some kind := by
  rw [kindOf?]
  split
  · next e tag h => simp [h]
  · next hsole =>
    refine iff_of_false (fun h => nomatch h) ?_
    rintro ⟨e, h, -⟩
    exact hsole e.1 e.2 h

theorem mem_of_kindOf? {s : List (String × Json)} (h : kindOf? kinds isNested s = some kind) :
    kind ∈ kinds := by
  obtain ⟨e, -, hkind⟩ := kindOf?_eq_some_iff.mp h
  rw [kind?.eq_def] at hkind
  split at hkind
  · split at hkind
    · next hmem => exact Option.some.inj hkind ▸ hmem
    · cases hkind
  · split at hkind
    · exact List.mem_of_getElem? hkind
    · cases hkind
  · cases hkind

/-- The kind that is read from a tag outside another tagged value is read from it inside one. -/
theorem kindOf?_nested {s : List (String × Json)} (h : kindOf? kinds isNested s = some kind) :
    kindOf? kinds true s = some kind := by
  obtain ⟨e, he, hkind⟩ := kindOf?_eq_some_iff.mp h
  refine kindOf?_eq_some_iff.mpr ⟨e, he, ?_⟩
  revert hkind
  cases isNested with
  | true => exact id
  | false =>
    rw [kind?.eq_def, kind?.eq_def]
    split
    · exact id
    · simp
    · exact id

/-- The kind of a tagged value is the same after an edit. -/
theorem kindOf?_of_entryEdit (htag : ∀ m ∈ ms, m.name ≠ tagKey) {s t : List (String × Json)}
    (hedit : EntryEdit R (tagKey :: known) ms s t)
    (hkind : kindOf? kinds isNested s = some kind) : kindOf? kinds isNested t = some kind := by
  obtain ⟨e, he, hkind⟩ := kindOf?_eq_some_iff.mp hkind
  have htags := hedit.tags_perm htag
  rw [he, List.singleton_perm] at htags
  exact kindOf?_eq_some_iff.mpr ⟨e, htags.symm, hkind⟩

/-- **Tagged values are read after edits.** The kind is the same, and so is what its reader makes of
the entries without the tag, if the reader of every kind tolerates edits of the kind's members. -/
theorem tagged_of_entryEdit {members : String → List (Member π)}
    {read : String → List (String × Json) → Option α}
    (hread : ∀ kind ∈ kinds, Tolerates R ((members kind).map (·.name)) (members kind) (read kind))
    (htag : ∀ kind ∈ kinds, ∀ m ∈ members kind, m.name ≠ tagKey) {s t : List (String × Json)}
    (hms : ∀ kind, kindOf? kinds isNested s = some kind → ms = members kind)
    (hedit : EntryEdit R (tagKey :: ms.map (·.name)) ms s t) {x : α}
    (hx : ((kindOf? kinds isNested s).bind fun kind => read kind (s.filter (·.1 != tagKey))) =
      some x) :
    ((kindOf? kinds isNested t).bind fun kind => read kind (t.filter (·.1 != tagKey))) =
      some x := by
  obtain ⟨kind, hkind, hx⟩ := Option.bind_eq_some_iff.mp hx
  have hmem := mem_of_kindOf? hkind
  obtain rfl := hms kind hkind
  refine Option.bind_eq_some_iff.mpr ⟨kind, kindOf?_of_entryEdit (htag kind hmem) hedit hkind, ?_⟩
  exact hread kind hmem _ _ (hedit.untagged (htag kind hmem)) x hx

end Tags

end Json

end SearchBridge
