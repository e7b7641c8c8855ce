/-!
# Insertion-ordered tables

A table is a list of entries under text keys in the order in which the keys first came. Writing a
key that is present replaces its value where it stands; a new key goes to the end. So the keys of
a table built by writing are pairwise distinct.
-/

namespace SearchBridge

/-- Entries under text keys, in the order of their keys' first arrival. -/
abbrev Table (α : Type) := List (String × α)

namespace Table

variable {α β : Type}

/-- The keys in order. -/
def keys (t : Table α) : List String := t.map Prod.fst

/-- The value under a key. -/
def get? (t : Table α) (key : String) : Option α := t.lookup key

/-- Replaces the value under a present key, or adds an entry at the end. -/
def put : Table α → String → α → Table α
  | [], key, value => [(key, value)]
  | (k, v) :: rest, key, value =>
    if k = key then (k, value) :: rest else (k, v) :: put rest key value

/-- Adds an entry at the end unless its key is present. -/
def putNew (t : Table α) (key : String) (value : α) : Table α :=
  if key ∈ t.keys then t else t ++ [(key, value)]

/-- The table that writing the entries one after the other builds: each key stands at its first
place with its last value. -/
def ofEntries (entries : List (String × α)) : Table α :=
  entries.foldl (fun t e => t.put e.1 e.2) []

@[simp] theorem keys_nil : Table.keys ([] : Table α) = [] := rfl

@[simp] theorem keys_cons (e : String × α) (t : Table α) :
    Table.keys (e :: t) = e.1 :: Table.keys t := rfl

@[simp] theorem keys_append (s t : Table α) :
    Table.keys (s ++ t) = Table.keys s ++ Table.keys t := by
  simp [keys]

theorem keys_put (t : Table α) (key : String) (value : α) :
    (t.put key value).keys = if key ∈ t.keys then t.keys else t.keys ++ [key] := by
  induction t with
  | nil => simp [put]
  | cons e t ih =>
    obtain ⟨k, v⟩ := e
    by_cases h : k = key
    · simp [put, h]
    · have h' : ¬key = k := fun e => h e.symm
      by_cases hm : key ∈ keys t <;> simp [put, h, h', ih, hm]

end Table

end SearchBridge
