import Mathlib.Data.List.Nodup
import Mathlib.Data.List.Pairwise
import SearchBridge.Proofs.Json.Records

/-!
# Members in any order

A record is read from the members of an object one after the other. Two members that follow each
other may change places if the updates of their fields commute, since each member only adds its name
to those seen; so the members may be put in any order. Fields that set different parts of a record
commute.

## Main definitions

* `Json.RecordField.Commutes` : fields whose updates may be made in either order.
* `Json.MemberRead` : what reading one member does.

## Main results

* `Json.readFields_perm` : members may change places.
* `Json.RecordField.optional_commutes`, `Json.RecordField.mandatory_commutes` : setting different
  parts of a record.
-/

namespace SearchBridge

namespace Json

open Raw

variable {σ : Type}

/-! ### Reading one member -/

/-- The updates of two fields may be made in either order. -/
def RecordField.Commutes (f g : RecordField σ) : Prop :=
  ∀ r r' u w, f.update r = .ok u → g.update r' = .ok w → ∀ x, u (w x) = w (u x)

/-- What reading one member does to the names seen and to the record. -/
inductive MemberRead (fields : List (RecordField σ)) :
    Option String × Raw → List String → σ → List String → σ → Prop
  | pass {name r seen record} (hfield : fields.find? (·.name == name) = none)
      (hskip : r.skipError? = none) : MemberRead fields (some name, r) seen record seen record
  | take {name r seen record field u} (hfield : fields.find? (·.name == name) = some field)
      (hnew : name ∉ seen) (hupdate : field.update r = .ok u) :
      MemberRead fields (some name, r) seen record (name :: seen) (u record)

variable {fields : List (RecordField σ)}

/-- A record is read from members by reading the first one and going on with the others. -/
theorem readFields_cons_iff {member : Option String × Raw} {rest : List (Option String × Raw)}
    {seen : List String} {record x : σ} :
    readFields fields (member :: rest) seen record = .ok x ↔
      ∃ seen' record', MemberRead fields member seen record seen' record' ∧
        readFields fields rest seen' record' = .ok x := by
  obtain ⟨_ | name, r⟩ := member
  · exact iff_of_false (fun h => nomatch h) fun ⟨_, _, h, _⟩ => nomatch h
  rw [readFields]
  constructor
  · intro h
    split at h
    · next hfield =>
      split at h
      · cases h
      · next hskip => exact ⟨seen, record, .pass hfield hskip, h⟩
    · next field hfield =>
      split at h
      · cases h
      · next hnew =>
        rw [List.contains_iff_mem] at hnew
        cases hupdate : field.update r with
        | error e =>
          rw [hupdate] at h
          cases h
        | ok u =>
          rw [hupdate] at h
          exact ⟨name :: seen, u record, .take hfield hnew hupdate, h⟩
  · rintro ⟨_, _, hread, h⟩
    cases hread with
    | pass hfield hskip =>
      rw [hfield]
      dsimp only
      rw [hskip]
      exact h
    | take hfield hnew hupdate =>
      rw [← List.contains_iff_mem, Bool.not_eq_true] at hnew
      rw [hfield]
      dsimp only
      rw [hnew, hupdate]
      exact h

/-- A member that comes first is read into the record if it has the name of a field. -/
theorem readFields_known_iff {name : String} {f : RecordField σ}
    (hfind : fields.find? (·.name == name) = some f) {r : Raw} {rest : List (Option String × Raw)}
    {record x : σ} : readFields fields ((some name, r) :: rest) [] record = .ok x ↔
      ∃ u, f.update r = .ok u ∧ readFields fields rest [name] (u record) = .ok x := by
  rw [readFields, hfind]
  dsimp only
  cases f.update r <;> simp [bind, Except.bind]

/-! ### Members in any order -/

/-- Fewer names may have been seen, if those of required fields are still among them. -/
theorem readFields_of_seen : (members : List (Option String × Raw)) → {seen seen' : List String} →
    {record x : σ} → seen' ⊆ seen →
    (∀ f ∈ fields, f.required = true → f.name ∈ seen → f.name ∈ seen') →
      readFields fields members seen record = .ok x →
        readFields fields members seen' record = .ok x
  | [], seen, seen', record, x, _, hrequired, h => by
    rw [readFields] at h ⊢
    split at h
    · next hall =>
      rw [if_pos ?_]
      · exact h
      · rw [List.all_eq_true] at hall ⊢
        intro f hf
        have hf' := hall f hf
        rw [Bool.or_eq_true, Bool.not_eq_true', List.contains_iff_mem] at hf' ⊢
        cases hreq : f.required with
        | false => exact .inl rfl
        | true => exact .inr (hrequired f hf hreq (hf'.resolve_left (by simp [hreq])))
    · cases h
  | member :: rest, seen, seen', record, x, hsub, hrequired, h => by
    obtain ⟨_, _, hread, h⟩ := readFields_cons_iff.mp h
    refine readFields_cons_iff.mpr ?_
    cases hread with
    | pass hfield hskip =>
      exact ⟨_, _, .pass hfield hskip, readFields_of_seen rest hsub hrequired h⟩
    | @take name _ _ _ field u hfield hnew hupdate =>
      refine ⟨_, _, .take hfield (fun hmem => hnew (hsub hmem)) hupdate,
        readFields_of_seen rest (List.cons_subset_cons name hsub) (fun f hf hreq hmem => ?_) h⟩
      exact List.mem_cons.mpr ((List.mem_cons.mp hmem).imp_right (hrequired f hf hreq))

/-- Two members change places. -/
theorem MemberRead.swap (hcomm : fields.Pairwise RecordField.Commutes)
    {a b : Option String × Raw} {seen seen₁ seen₂ : List String} {record record₁ record₂ : σ}
    (ha : MemberRead fields a seen record seen₁ record₁)
    (hb : MemberRead fields b seen₁ record₁ seen₂ record₂) :
    ∃ seen₁' record₁' seen₂', MemberRead fields b seen record seen₁' record₁' ∧
      MemberRead fields a seen₁' record₁' seen₂' record₂ ∧ ∀ n, n ∈ seen₂' ↔ n ∈ seen₂ := by
  cases ha with
  | pass hfield hskip =>
    cases hb with
    | pass hfield' hskip' =>
      exact ⟨_, _, _, .pass hfield' hskip', .pass hfield hskip, fun _ => Iff.rfl⟩
    | take hfield' hnew' hupdate' =>
      exact ⟨_, _, _, .take hfield' hnew' hupdate', .pass hfield hskip, fun _ => Iff.rfl⟩
  | @take name _ _ _ field u hfield hnew hupdate =>
    cases hb with
    | pass hfield' hskip' =>
      exact ⟨_, _, _, .pass hfield' hskip', .take hfield hnew hupdate, fun _ => Iff.rfl⟩
    | @take name' _ _ _ field' u' hfield' hnew' hupdate' =>
      obtain ⟨hne, hnew'⟩ := not_or.mp (mt List.mem_cons.mpr hnew')
      have hnames : field.name = name ∧ field'.name = name' :=
        ⟨by simpa using List.find?_some hfield, by simpa using List.find?_some hfield'⟩
      have hfields : field ≠ field' := by
        rintro rfl
        exact hne (hnames.2.symm.trans hnames.1)
      have hsymm : Std.Symm (RecordField.Commutes (σ := σ)) :=
        ⟨fun f g h r r' u w hu hw x => (h r' r w u hw hu x).symm⟩
      have hcomm : field.Commutes field' := hcomm.forall (List.mem_of_find?_eq_some hfield)
        (List.mem_of_find?_eq_some hfield') hfields
      rw [← hcomm _ _ _ _ hupdate hupdate' record]
      refine ⟨_, _, _, .take hfield' hnew' hupdate', .take hfield ?_ hupdate, fun n => ?_⟩
      · exact mt List.mem_cons.mp (not_or.mpr ⟨Ne.symm hne, hnew⟩)
      · rw [List.mem_cons, List.mem_cons, List.mem_cons, List.mem_cons, or_left_comm]

/-- Members may change places if the updates of the fields commute. -/
theorem readFields_perm (hcomm : fields.Pairwise RecordField.Commutes)
    {members members' : List (Option String × Raw)} (hperm : members.Perm members') :
    ∀ {seen : List String} {record x : σ}, readFields fields members seen record = .ok x →
      readFields fields members' seen record = .ok x := by
  induction hperm with
  | nil => exact fun h => h
  | cons member _ ih =>
    intro seen record x h
    obtain ⟨seen', record', hread, h⟩ := readFields_cons_iff.mp h
    exact readFields_cons_iff.mpr ⟨seen', record', hread, ih h⟩
  | swap a b rest =>
    intro seen record x h
    obtain ⟨_, _, hb, h⟩ := readFields_cons_iff.mp h
    obtain ⟨_, _, ha, h⟩ := readFields_cons_iff.mp h
    obtain ⟨_, _, _, ha, hb, hseen⟩ := hb.swap hcomm ha
    refine readFields_cons_iff.mpr ⟨_, _, ha, readFields_cons_iff.mpr ⟨_, _, hb, ?_⟩⟩
    exact readFields_of_seen rest (fun n => (hseen n).mp) (fun f _ _ => (hseen f.name).mpr) h
  | trans _ _ ih ih' => exact fun h => ih' (ih h)

/-! ### Fields that commute -/

section Setters

variable {α β : Type} {name name' : String} {read : Raw → Except Error α}
  {read' : Raw → Except Error β} {set : α → σ → σ} {set' : β → σ → σ}
  (h : ∀ a b x, set a (set' b x) = set' b (set a x))
include h

/-- Fields that may be left out commute if they set different parts of a record. -/
theorem RecordField.optional_commutes :
    (RecordField.optional name read set).Commutes (.optional name' read' set') := by
  intro r r' u w hu hw x
  obtain ⟨a, -, rfl⟩ := exists_of_update_optional hu
  obtain ⟨b, -, rfl⟩ := exists_of_update_optional hw
  exact h a b x

/-- Fields that have to be present commute if they set different parts of a record. -/
theorem RecordField.mandatory_commutes :
    (RecordField.mandatory name read set).Commutes (.mandatory name' read' set') := by
  intro r r' u w hu hw x
  obtain ⟨a, -, rfl⟩ := exists_of_update_mandatory hu
  obtain ⟨b, -, rfl⟩ := exists_of_update_mandatory hw
  exact h a b x

end Setters

end Json

end SearchBridge
