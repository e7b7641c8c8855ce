import Mathlib.Logic.Basic
import SearchBridge.Json.Record

/-!
# Records member by member

A record is updated by one member after the other, so its reading depends on the order of members
only through updates that interfere. An optional field whose update does not interfere with those of
the other fields can be taken out of the object: the rest is read as if the field were not there,
and the update is made at the end.

## Main definitions

* `Json.Independent` : an optional field whose update commutes with all others.

## Main results

* `Json.readRecord_invariant` : what every field keeps, reading a record keeps.
* `Json.readFields_insert` : reading an object with an independent field.
-/

namespace SearchBridge

namespace Json

open Raw

variable {σ : Type}

/-- A mapped result is the image of a result. -/
theorem exists_of_map_eq_ok {ε α β : Type} {f : α → β} {r : Except ε α} {y : β}
    (h : r.map f = .ok y) : ∃ x, r = .ok x ∧ y = f x := by
  cases r with
  | error e => cases h
  | ok x => exact ⟨x, rfl, (Except.ok.inj h).symm⟩

section Updates

variable {α : Type} {name : String} {read : Raw → Except Error α} {set : α → σ → σ} {r : Raw}
  {w : σ → σ}

/-- What reading a field that may be left out does to a record. -/
theorem RecordField.exists_of_update_optional
    (h : (RecordField.optional name read set).update r = .ok w) :
    ∃ x, read r = .ok x ∧ w = set x :=
  exists_of_map_eq_ok h

/-- What reading a field that has to be present does to a record. -/
theorem RecordField.exists_of_update_mandatory
    (h : (RecordField.mandatory name read set).update r = .ok w) :
    ∃ x, read r = .ok x ∧ w = set x :=
  exists_of_map_eq_ok h

end Updates

section Invariants

variable {P : σ → Prop} {fields : List (RecordField σ)}

/-- A property that the update of every field keeps is one of every record that is read. -/
theorem readFields_invariant
    (hkeep : ∀ f ∈ fields, ∀ r w, f.update r = .ok w → ∀ x, P x → P (w x)) :
    (members : List (Option String × Raw)) → (seen : List String) → (record : σ) → P record →
      ∀ x, readFields fields members seen record = .ok x → P x
  | [], seen, record, hrecord, x, h => by
    rw [readFields] at h
    split at h
    · rw [← Except.ok.inj h]
      exact hrecord
    · cases h
  | (none, _) :: _, _, _, _, _, h => nomatch h
  | (some n, r) :: rest, seen, record, hrecord, x, h => by
    rw [readFields] at h
    split at h
    · split at h
      · cases h
      · exact readFields_invariant hkeep rest seen record hrecord x h
    · next field hfield =>
      split at h
      · cases h
      · cases hupdate : field.update r with
        | error e =>
          rw [hupdate] at h
          cases h
        | ok w =>
          rw [hupdate] at h
          have hw : P (w record) :=
            hkeep field (List.mem_of_find?_eq_some hfield) r w hupdate record hrecord
          exact readFields_invariant hkeep rest (n :: seen) (w record) hw x h

theorem readPositions_invariant : (fields : List (RecordField σ)) →
    (∀ f ∈ fields, ∀ r w, f.update r = .ok w → ∀ x, P x → P (w x)) → (rs : List Raw) →
    (record : σ) → P record → ∀ x, readPositions fields rs record = .ok x → P x
  | [], _, [], _, hrecord, x, h => by
    rw [← Except.ok.inj h]
    exact hrecord
  | [], _, _ :: _, _, _, _, h => nomatch h
  | field :: fields, hkeep, [], record, hrecord, x, h => by
    rw [readPositions] at h
    split at h
    · cases h
    · exact readPositions_invariant fields (List.forall_mem_cons.mp hkeep).2 [] record hrecord x h
  | field :: fields, hkeep, r :: rest, record, hrecord, x, h => by
    obtain ⟨hfield, hkeep⟩ := List.forall_mem_cons.mp hkeep
    rw [readPositions] at h
    cases hupdate : field.update r with
    | error e =>
      rw [hupdate] at h
      cases h
    | ok w =>
      rw [hupdate] at h
      have hw : P (w record) := hfield r w hupdate record hrecord
      exact readPositions_invariant fields hkeep rest (w record) hw x h

/-- What the update of every field keeps, reading a record keeps, from an object or an array. -/
theorem readRecord_invariant
    (hkeep : ∀ f ∈ fields, ∀ r w, f.update r = .ok w → ∀ x, P x → P (w x)) {record : σ}
    (hrecord : P record) {r : Raw} {x : σ} (h : readRecord fields record r = .ok x) : P x := by
  cases r with
  | array rs => exact readPositions_invariant fields hkeep rs record hrecord x h
  | object members => exact readFields_invariant hkeep members [] record hrecord x h
  | _ => cases h

end Invariants

/-- The field `name` of a record may be left out, its JSON `r` stands for the update `u`, and it
does not matter whether this update is made before or after those of other fields. -/
structure Independent (fields : List (RecordField σ)) (name : String) (r : Raw) (u : σ → σ) :
    Prop where
  found : ∃ field, fields.find? (·.name == name) = some field ∧ field.update r = .ok u
  optional : ∀ f ∈ fields, f.name = name → f.required = false
  commutes : ∀ f ∈ fields, f.name ≠ name → ∀ r w, f.update r = .ok w → ∀ x, w (u x) = u (w x)

variable {fields : List (RecordField σ)} {name : String} {r : Raw} {u : σ → σ}

private theorem contains_eq_of_mem_iff {names names' : List String} {n : String}
    (h : n ∈ names ↔ n ∈ names') : names.contains n = names'.contains n :=
  Bool.eq_iff_iff.mpr (by rw [List.contains_iff_mem, List.contains_iff_mem, h])

/-- Members of other names are read in the same way before and after the update. -/
private theorem readFields_update (h : Independent fields name r u) :
    (members : List (Option String × Raw)) → (seen seen' : List String) → (record : σ) →
    (∀ n, n ≠ name → (n ∈ seen ↔ n ∈ seen')) → some name ∉ members.map Prod.fst →
      readFields fields members seen (u record) =
        (readFields fields members seen' record).map u
  | [], seen, seen', record, hseen, _ => by
    have hall : (fields.all fun f => !f.required || seen.contains f.name) =
        fields.all fun f => !f.required || seen'.contains f.name := by
      rw [Bool.eq_iff_iff, List.all_eq_true, List.all_eq_true]
      refine forall₂_congr fun f hf => ?_
      by_cases hname : f.name = name
      · rw [h.optional f hf hname]
        rfl
      · rw [contains_eq_of_mem_iff (hseen f.name hname)]
    rw [readFields, readFields, hall]
    split <;> rfl
  | (none, _) :: _, _, _, _, _, _ => rfl
  | (some n, r') :: rest, seen, seen', record, hseen, hmembers => by
    obtain ⟨hname, hrest⟩ := not_or.mp (mt List.mem_cons.mpr hmembers)
    have hname : n ≠ name := fun heq => hname (congrArg some heq.symm)
    rw [readFields, readFields]
    cases hfield : fields.find? (·.name == n) with
    | none =>
      cases r'.skipError? with
      | some e => rfl
      | none => exact readFields_update h rest seen seen' record hseen hrest
    | some field =>
      dsimp only
      rw [contains_eq_of_mem_iff (hseen n hname)]
      cases seen'.contains n with
      | true => rfl
      | false =>
        cases hupdate : field.update r' with
        | error e => rfl
        | ok w =>
          -- Another field's update changes places with `u`; both lists of names grow alike.
          have hmem : field ∈ fields := List.mem_of_find?_eq_some hfield
          have hfname : field.name = n := by simpa using List.find?_some hfield
          have hcomm : w (u record) = u (w record) :=
            h.commutes field hmem (hfname ▸ hname) r' w hupdate record
          have hseen' (m : String) (hm : m ≠ name) : m ∈ n :: seen ↔ m ∈ n :: seen' := by
            rw [List.mem_cons, List.mem_cons, hseen m hm]
          have ih := readFields_update h rest (n :: seen) (n :: seen') (w record) hseen' hrest
          rw [← hcomm] at ih
          exact ih

/-- A record that the update leaves as it is: reading members of other names keeps it so. -/
theorem readFields_of_update_eq (h : Independent fields name r u) (record : σ)
    (hrecord : u record = record) {members : List (Option String × Raw)}
    (hmembers : some name ∉ members.map Prod.fst) :
    readFields fields members [] record = (readFields fields members [] record).map u := by
  have hread := readFields_update h members [] [] record (fun _ _ => Iff.rfl) hmembers
  rw [hrecord] at hread
  exact hread

/-- **Reading an object with an independent field.** The object is read without the field, and the
field's update is made at the end. -/
theorem readFields_insert (h : Independent fields name r u) :
    (members members' : List (Option String × Raw)) → (seen : List String) → (record : σ) →
    name ∉ seen → some name ∉ members.map Prod.fst → some name ∉ members'.map Prod.fst →
      readFields fields (members ++ (some name, r) :: members') seen record =
        (readFields fields (members ++ members') seen record).map u
  | [], members', seen, record, hseen, _, hmembers' => by
    -- The field comes first, and the update is carried past the members that follow.
    obtain ⟨field, hfield, hupdate⟩ := h.found
    have hnew : seen.contains name = false := by
      rw [Bool.eq_false_iff, ne_eq, List.contains_iff_mem]
      exact hseen
    have hseen' (n : String) (hn : n ≠ name) : n ∈ name :: seen ↔ n ∈ seen := by
      rw [List.mem_cons]
      exact or_iff_right hn
    rw [List.nil_append, List.nil_append, readFields, hfield]
    dsimp only
    rw [hnew, hupdate]
    exact readFields_update h members' (name :: seen) seen record hseen' hmembers'
  | (none, _) :: _, _, _, _, _, _, _ => rfl
  | (some n, r') :: rest, members', seen, record, hseen, hmembers, hmembers' => by
    obtain ⟨hname, hrest⟩ := not_or.mp (mt List.mem_cons.mpr hmembers)
    have hname : name ≠ n := fun heq => hname (congrArg some heq)
    rw [List.cons_append, List.cons_append, readFields, readFields]
    cases fields.find? (·.name == n) with
    | none =>
      cases r'.skipError? with
      | some e => rfl
      | none => exact readFields_insert h rest members' seen record hseen hrest hmembers'
    | some field =>
      dsimp only
      cases seen.contains n with
      | true => rfl
      | false =>
        cases field.update r' with
        | error e => rfl
        | ok w =>
          have hseen' : name ∉ n :: seen := mt List.mem_cons.mp (not_or.mpr ⟨hname, hseen⟩)
          exact readFields_insert h rest members' (n :: seen) (w record) hseen' hrest hmembers'

end Json

end SearchBridge
