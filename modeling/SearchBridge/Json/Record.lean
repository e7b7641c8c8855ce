import SearchBridge.Json.Reader

/-!
# Records and tagged values in JSON

A record is read from an object, whose unknown members are passed over and whose known members may
come once each in any order, or from an array of its fields in their declared order. The reading
starts at a default record, and every field that is present updates it; a required field has to
be present. Members are looked at in the order of the text.

A value of one of several kinds is an object whose `type` entry, wherever it stands, names the
kind, or an array that starts with the kind's name and goes on with the fields. Inside another
tagged value the kind may also be given by its position among the kinds.
-/

namespace SearchBridge

namespace Json

/-! ### Records -/

/-- A field of a record: its name, whether it has to be present, and the update of the record that
its JSON stands for. -/
structure RecordField (σ : Type) where
  name : String
  required : Bool
  update : Raw → Except Error (σ → σ)

namespace RecordField

variable {σ α : Type}

/-- A field that may be left out. -/
def optional (name : String) (read : Raw → Except Error α) (set : α → σ → σ) : RecordField σ :=
  ⟨name, false, fun r => (read r).map set⟩

/-- A field that has to be present. -/
def mandatory (name : String) (read : Raw → Except Error α) (set : α → σ → σ) : RecordField σ :=
  ⟨name, true, fun r => (read r).map set⟩

end RecordField

namespace Raw

variable {σ : Type}

/-- Reads a record from the members of an object; `seen` holds the names that came before. -/
def readFields (fields : List (RecordField σ)) :
    List (Option String × Raw) → List String → σ → Except Error σ
  | [], seen, record =>
    if fields.all fun f => !f.required || seen.contains f.name then .ok record
    else .error .mismatch
  | (none, r) :: _, _, _ => .error r.namelessError
  | (some name, r) :: rest, seen, record =>
    match fields.find? (·.name == name) with
    | none =>
      match r.skipError? with
      | some e => .error e
      | none => readFields fields rest seen record
    | some field =>
      if seen.contains name then .error .mismatch
      else do
        let update ← field.update r
        readFields fields rest (name :: seen) (update record)

/-- Reads a record from the items of an array. -/
def readPositions : List (RecordField σ) → List Raw → σ → Except Error σ
  | [], [], record => .ok record
  | [], r :: _, _ => .error (match r with | .broken e => e | _ => .surplus)
  | field :: fields, [], record =>
    if field.required then .error .mismatch else readPositions fields [] record
  | field :: fields, r :: rest, record => do
    let update ← field.update r
    readPositions fields rest (update record)

/-- Reads a record from an object only. -/
def readObject (fields : List (RecordField σ)) (initial : σ) : Raw → Except Error σ
  | .object members => readFields fields members [] initial
  | r => .error r.refusal

/-- Reads a record from an object or an array of fields. -/
def readRecord (fields : List (RecordField σ)) (initial : σ) : Raw → Except Error σ
  | .array items => readPositions fields items initial
  | r => r.readObject fields initial

end Raw

/-! ### Tagged values -/

/-- The key of the entry that names the kind. -/
def tagKey : String := "type"

/-- The kind that a tag gives; positions are allowed only in a nested value. -/
def kind? (kinds : List String) (isNested : Bool) : Json → Option String
  | .string s => if s ∈ kinds then some s else none
  | .number (.integer n) => if isNested ∧ 0 ≤ n then kinds[n.toNat]? else none
  | _ => none

/-- The kind of a tagged object: it has exactly one tag. -/
def kindOf? (kinds : List String) (isNested : Bool) (entries : List (String × Json)) :
    Option String :=
  match entries.filter (·.1 == tagKey) with
  | [(_, tag)] => tag.kind? kinds isNested
  | _ => none

/-- The entries of a tagged object other than its tag. -/
def untagged (entries : List (String × Json)) : Json :=
  .object (entries.filter (·.1 != tagKey))

/-- Reads a record from a value. -/
def record? {σ : Type} (fields : List (RecordField σ)) (initial : σ) (v : Json) : Option σ :=
  (v.raw.readRecord fields initial).toOption

end Json

end SearchBridge
