import Mathlib.Data.List.Nodup
import SearchBridge.Proofs.Json.Values

/-!
# Distinct keys of written objects

Objects are written from entries that are always there and entries for parts that may be missing. A
missing part only takes entries away, so the keys of such an object are distinct if the keys of all
entries that it may have are.

## Main results

* `Json.keys_whenSome_sublist`, `Json.keys_whenNonempty_sublist` : an entry that may be missing.
* `Json.entriesDistinct_whenSome`, `Json.entriesDistinct_whenNonempty` : its value.
-/

namespace SearchBridge

namespace Json

variable {α : Type} {key : String} {encode : α → Json}

@[simp] theorem keysDistinct_bool (b : Bool) : (Json.bool b).keysDistinct = true := rfl

@[simp] theorem keysDistinct_string (s : String) : (Json.string s).keysDistinct = true := rfl

@[simp] theorem keysDistinct_int (n : Int) : (Json.int n).keysDistinct = true := rfl

@[simp] theorem keysDistinct_nat (n : Nat) : (Json.nat n).keysDistinct = true := rfl

@[simp] theorem keysDistinct_double (x : Binary64) : (Json.double x).keysDistinct = true := by
  cases x <;> rfl

theorem keysDistinct_array {items : List Json} :
    (Json.array items).keysDistinct ↔ ∀ v ∈ items, v.keysDistinct :=
  itemsDistinct_iff

@[simp] theorem keysDistinct_strings (texts : List String) :
    (Json.strings texts).keysDistinct = true := by
  refine keysDistinct_array.mpr fun v hv => ?_
  obtain ⟨s, _, rfl⟩ := List.mem_map.mp hv
  rfl

/-- An object with one entry repeats no key of its own. -/
theorem keysDistinct_single {v : Json} :
    (Json.object [(key, v)]).keysDistinct ↔ v.keysDistinct := by
  rw [keysDistinct_object, entriesDistinct_iff, List.forall_mem_singleton]
  exact and_iff_right (List.nodup_singleton key)

@[simp] theorem entriesDistinct_nil : entriesDistinct [] = true := rfl

@[simp] theorem entriesDistinct_cons {v : Json} {entries : List (String × Json)} :
    entriesDistinct ((key, v) :: entries) = true ↔
      v.keysDistinct = true ∧ entriesDistinct entries = true :=
  Bool.and_eq_true_iff

theorem entriesDistinct_append {s t : List (String × Json)} :
    entriesDistinct (s ++ t) ↔ entriesDistinct s ∧ entriesDistinct t := by
  rw [entriesDistinct_iff, entriesDistinct_iff, entriesDistinct_iff, List.forall_mem_append]

/-- A part that may be missing adds at most its own key. -/
theorem keys_whenSome_sublist (key : String) (encode : α → Json) (x : Option α) :
    (Table.keys (whenSome key encode x)).Sublist [key] := by
  cases x with
  | none => exact List.nil_sublist _
  | some x => exact List.Sublist.refl _

theorem keys_whenNonempty_sublist (key : String) (encode : List α → Json) (xs : List α) :
    (Table.keys (whenNonempty key encode xs)).Sublist [key] := by
  cases xs with
  | nil => exact List.nil_sublist _
  | cons x xs => exact List.Sublist.refl _

/-- The keys in the value of a part that may be missing. -/
theorem entriesDistinct_whenSome {x : Option α} :
    entriesDistinct (whenSome key encode x) ↔ ∀ y ∈ x, (encode y).keysDistinct := by
  rw [entriesDistinct_iff]
  cases x with
  | none => simp [whenSome]
  | some x => simp [whenSome]

/-- The keys in the value of a list that may be missing, which is written item by item. -/
theorem entriesDistinct_whenNonempty {xs : List Json} :
    entriesDistinct (whenNonempty key .array xs) ↔ ∀ v ∈ xs, v.keysDistinct := by
  rw [entriesDistinct_iff]
  cases xs with
  | nil => simp [whenNonempty]
  | cons x xs =>
    rw [whenNonempty, List.forall_mem_singleton]
    exact keysDistinct_array

end Json

end SearchBridge
