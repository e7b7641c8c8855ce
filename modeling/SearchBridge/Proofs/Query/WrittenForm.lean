import SearchBridge.Proofs.Json.Writing
import SearchBridge.Proofs.Query.Clauses
import SearchBridge.Proofs.Table
import SearchBridge.Query.Json

/-!
# Written queries can be told apart

The written form of a query determines the query. An object shows the kind of a query by its key,
and what may be missing stands under a key of its own, so that a missing part is not taken for
another one. The one thing that is not written are the numbers that JSON has not, so coordinates and
distances have to be finite.

## Main definitions

* `Clause.IsFinite`, `Query.IsFinite` : the clauses that a written form can show.

## Main results

* `Json.get?_whenSome`, `Json.get?_whenNonempty` : reading off what may be missing.
* `Fuzziness.toJson_injective`, `Clause.eq_of_toJson_eq` : the parts of a query.
* `Query.eq_of_toJson_eq` : the written form of a query determines it.
-/

namespace SearchBridge

/-! ### Entries that may be missing -/

namespace Json

variable {α : Type} {encode : α → Json}

/-- What is found under a key of an entry that may be missing. -/
theorem get?_whenSome (key key' : String) (encode : α → Json) (x : Option α) :
    Table.get? (whenSome key encode x) key' = if key' = key then x.map encode else none := by
  cases x with
  | none => rw [whenSome, Table.get?_nil, Option.map_none, ite_self]
  | some x => rw [whenSome, Table.get?_cons, Table.get?_nil, Option.map_some]

/-- What is found under a key of an entry for a list that may be empty. -/
theorem get?_whenNonempty (key key' : String) (encode : List α → Json) (xs : List α) :
    Table.get? (whenNonempty key encode xs) key' =
      if key' = key then if xs = [] then none else some (encode xs) else none := by
  cases xs with
  | nil => rw [whenNonempty, Table.get?_nil, if_pos rfl, ite_self]
  | cons x xs => rw [whenNonempty, Table.get?_cons, Table.get?_nil, if_neg (List.cons_ne_nil x xs)]

/-- Parts that may be missing are equal if they are written alike. -/
theorem eq_of_map_eq {x y : Option α} (hencode : ∀ a ∈ x, ∀ b ∈ y, encode a = encode b → a = b)
    (h : x.map encode = y.map encode) : x = y := by
  cases x with
  | none => exact (Option.map_eq_none_iff.mp h.symm).symm
  | some a =>
    obtain ⟨b, rfl, hb⟩ := Option.map_eq_some_iff.mp h.symm
    rw [hencode a rfl b rfl hb.symm]

/-- Lists that may be empty are equal if they are written alike. -/
theorem eq_of_ite_eq {encode : List α → Json} (hencode : Function.Injective encode)
    {xs ys : List α} (h : (if xs = [] then none else some (encode xs)) =
      if ys = [] then none else some (encode ys)) : xs = ys := by
  split at h <;> split at h
  · next hx hy => rw [hx, hy]
  · cases h
  · cases h
  · exact hencode (Option.some.inj h)

theorem string_injective : Function.Injective Json.string := fun _ _ => Json.string.inj

theorem strings_injective : Function.Injective strings := fun _ _ h =>
  List.map_injective_iff.mpr string_injective (Json.array.inj h)

theorem int_injective : Function.Injective int := fun _ _ h =>
  Json.Number.integer.inj (Json.number.inj h)

theorem nat_injective : Function.Injective nat := fun _ _ h => Int.ofNat.inj (int_injective h)

theorem word_injective : Function.Injective fun n : UInt32 => nat n.toNat := fun _ _ h =>
  UInt32.toNat_inj.mp (nat_injective h)

end Json

open Json

/-! ### Parts of clauses -/

theorem RangeBounds.toJson_injective : Function.Injective RangeBounds.toJson := by
  intro b c h
  have hfound (key : String) := congrArg (Table.get? · key) (Json.object.inj h)
  have hgt := hfound "gt"
  have hgte := hfound "gte"
  have hlt := hfound "lt"
  have hlte := hfound "lte"
  simp only [Table.get?_append, get?_whenSome, ↓reduceIte, String.reduceEq, Option.or_none,
    Option.none_or, Option.or_self] at hgt hgte hlt hlte
  have hpart := Option.map_injective string_injective
  cases b
  cases c
  rw [RangeBounds.mk.injEq]
  exact ⟨hpart hgt, hpart hgte, hpart hlt, hpart hlte⟩

/-- Digits before a comma end there. -/
theorem toDigits_comma_inj {m n : Nat} {s t : List Char}
    (h : Nat.toDigits 10 m ++ ',' :: s = Nat.toDigits 10 n ++ ',' :: t) : m = n ∧ s = t := by
  have htake (n : Nat) (s : List Char) :
      (Nat.toDigits 10 n ++ ',' :: s).takeWhile Char.isDigit = Nat.toDigits 10 n := by
    rw [List.takeWhile_append_of_pos fun c hc => Literal.isDigit_of_mem_toDigits hc]
    exact List.append_nil _
  have hdigits := congrArg (List.takeWhile Char.isDigit) h
  rw [htake, htake] at hdigits
  obtain rfl := Literal.toDigits_injective hdigits
  exact ⟨rfl, List.tail_eq_of_cons_eq (List.append_cancel_left h)⟩

/-- The name of automatic fuzziness shows its thresholds. -/
theorem AutoFuzziness.eq_of_text_eq {a b : AutoFuzziness}
    (h : "AUTO:" ++ toString a.low.toNat ++ "," ++ toString a.high.toNat =
      "AUTO:" ++ toString b.low.toNat ++ "," ++ toString b.high.toNat) : a = b := by
  have hchars := congrArg String.toList h
  simp only [String.toList_append, Nat.toString_eq_repr, Nat.toList_repr, List.append_assoc]
    at hchars
  obtain ⟨hlow, hhigh⟩ := toDigits_comma_inj (List.append_cancel_left hchars)
  cases a
  cases b
  rw [AutoFuzziness.mk.injEq]
  exact ⟨UInt32.toNat_inj.mp hlow, UInt32.toNat_inj.mp (Literal.toDigits_injective hhigh)⟩

theorem Fuzziness.toJson_injective : Function.Injective Fuzziness.toJson := by
  intro f g h
  have hplain (t : AutoFuzziness) : "AUTO" ≠ "AUTO:" ++ toString t.low.toNat ++ "," ++
      toString t.high.toNat := by
    intro heq
    have hchars := congrArg String.toList heq
    simp at hchars
  cases f with
  | editDistance m =>
    cases g with
    | editDistance n => rw [word_injective h]
    | auto t =>
      rw [toJson, toJson] at h
      split at h <;> cases h
  | auto t =>
    cases g with
    | editDistance n =>
      rw [toJson, toJson] at h
      split at h <;> cases h
    | auto u =>
      rw [toJson, toJson] at h
      by_cases ht : t = {} <;> by_cases hu : u = {}
      · rw [ht, hu]
      · rw [if_pos ht, if_neg hu] at h
        exact absurd (Json.string.inj h) (hplain u)
      · rw [if_neg ht, if_pos hu] at h
        exact absurd (Json.string.inj h).symm (hplain t)
      · rw [if_neg ht, if_neg hu] at h
        rw [AutoFuzziness.eq_of_text_eq (Json.string.inj h)]

theorem Operator.name_injective : Function.Injective Operator.name := by
  intro a b h
  cases a <;> cases b
  · rfl
  · exact absurd h (by decide)
  · exact absurd h (by decide)
  · rfl

theorem Binary64.eq_of_double_eq {x y : Binary64} (hx : ∃ v, x = .finite v)
    (hy : ∃ v, y = .finite v) (h : Json.double x = Json.double y) : x = y := by
  obtain ⟨v, rfl⟩ := hx
  obtain ⟨w, rfl⟩ := hy
  rw [Json.Number.float.inj (Json.number.inj h)]

theorem Binary64.eq_of_display_eq {x y : Binary64} (hx : ∃ v, x = .finite v)
    (hy : ∃ v, y = .finite v) (h : x.display = y.display) : x = y := by
  obtain ⟨v, rfl⟩ := hx
  obtain ⟨w, rfl⟩ := hy
  rw [Binary64.Finite.eq_of_render_eq h]

theorem GeoPoint.eq_of_toLatLon_eq {p q : GeoPoint} (hp : p.IsFinite) (hq : q.IsFinite)
    (h : p.toLatLon = q.toLatLon) : p = q := by
  simp only [toLatLon, Json.object.injEq, List.cons.injEq, Prod.mk.injEq, true_and, and_true] at h
  cases p
  cases q
  rw [GeoPoint.mk.injEq]
  exact ⟨Binary64.eq_of_double_eq hp.1 hq.1 h.1, Binary64.eq_of_double_eq hp.2 hq.2 h.2⟩

/-! ### Clauses -/

/-- The numbers in a clause are finite. -/
def Clause.IsFinite : Clause → Prop
  | .geoDistance _ centre kilometres => centre.IsFinite ∧ ∃ x, kilometres = .finite x
  | _ => True

/-- The written form of a clause determines it. -/
theorem Clause.eq_of_toJson_eq {c d : Clause} (hc : c.IsFinite) (hd : d.IsFinite)
    (h : c.toJson = d.toJson) : c = d := by
  cases c with
  | ids values =>
    cases d with
    | ids values' =>
      simp only [toJson, Json.object.injEq, List.cons.injEq, Prod.mk.injEq, true_and, and_true,
        strings_injective.eq_iff] at h
      rw [h]
    | _ => simp [toJson] at h
  | terms field values =>
    cases d with
    | terms field' values' =>
      simp only [toJson, Json.object.injEq, List.cons.injEq, Prod.mk.injEq, true_and, and_true,
        strings_injective.eq_iff] at h
      rw [h.1, h.2]
    | _ => simp [toJson] at h
  | range field bounds =>
    cases d with
    | range field' bounds' =>
      simp only [toJson, Json.object.injEq, List.cons.injEq, Prod.mk.injEq, true_and, and_true,
        RangeBounds.toJson_injective.eq_iff] at h
      rw [h.1, h.2]
    | _ => simp [toJson] at h
  | geoDistance field centre kilometres =>
    cases d with
    | geoDistance field' centre' kilometres' =>
      simp only [toJson, Json.object.injEq, List.cons.injEq, Prod.mk.injEq, true_and, and_true,
        Json.string.injEq, String.append_left_inj] at h
      obtain ⟨hdisplay, hfield, hcentre⟩ := h
      rw [hfield, GeoPoint.eq_of_toLatLon_eq hc.1 hd.1 hcentre,
        Binary64.eq_of_display_eq hc.2 hd.2 hdisplay]
    | _ => simp [toJson] at h
  | wildcard field pattern =>
    cases d with
    | wildcard field' pattern' =>
      simp only [toJson, Json.object.injEq, List.cons.injEq, Prod.mk.injEq, true_and, and_true,
        Json.string.injEq] at h
      rw [h.1, h.2]
    | _ => simp [toJson] at h
  | multiMatch text fields analyzer operator fuzziness =>
    cases d with
    | multiMatch text' fields' analyzer' operator' fuzziness' =>
      simp only [toJson, Json.object.injEq, List.cons.injEq, Prod.mk.injEq, true_and, and_true] at h
      have hfound (key : String) := congrArg (Table.get? · key) h
      have htext := hfound "query"
      have hfields := hfound "fields"
      have hanalyzer := hfound "analyzer"
      have hoperator := hfound "operator"
      have hfuzziness := hfound "fuzziness"
      simp only [Table.get?_append, get?_whenSome, Table.get?_cons, Table.get?_nil, ↓reduceIte,
        String.reduceEq, Option.or_none, Option.none_or, Option.some.injEq,
        Json.string.injEq] at htext hfields hanalyzer hoperator hfuzziness
      rw [htext, strings_injective hfields, Option.map_injective string_injective hanalyzer,
        Operator.name_injective hoperator,
        Option.map_injective Fuzziness.toJson_injective hfuzziness]
    | _ => simp [toJson] at h

/-- The key of a clause is not that of another query. -/
theorem Clause.toJson_ne (c : Clause) {key : String} {v : Json}
    (h : key ∈ ["match_all", "match_none", "bool"]) : c.toJson ≠ .object [(key, v)] := by
  intro heq
  cases c <;>
    simp only [toJson, Json.object.injEq, List.cons.injEq, Prod.mk.injEq, and_true] at heq <;>
    rw [← heq.1] at h <;>
    exact absurd h (by decide)

/-! ### Queries -/

namespace Query

/-- The numbers in the clauses of a query are finite. -/
def IsFinite (q : Query) : Prop := ∀ c ∈ q.clauses, c.IsFinite

theorem forall_mem_clausesList_iff {qs : List Query} :
    (∀ c ∈ clausesList qs, c.IsFinite) ↔ ∀ q ∈ qs, q.IsFinite := by
  rw [clausesList_eq_flatMap, List.forall_mem_flatMap]
  rfl

variable {must should mustNot must' should' mustNot' : List Query}
  {minimum minimum' : Option UInt32}

theorem isFinite_bool_iff : (Query.bool must should mustNot minimum).IsFinite ↔
    (∀ q ∈ must, q.IsFinite) ∧ (∀ q ∈ should, q.IsFinite) ∧ ∀ q ∈ mustNot, q.IsFinite := by
  rw [IsFinite, clauses, List.forall_mem_append, List.forall_mem_append, and_assoc,
    forall_mem_clausesList_iff, forall_mem_clausesList_iff, forall_mem_clausesList_iff]

/-- The parts of a boolean query, as they are written. -/
theorem parts_eq_of_toJson_eq (h : (Query.bool must should mustNot minimum).toJson =
      (Query.bool must' should' mustNot' minimum').toJson) :
    toJsonList must = toJsonList must' ∧ toJsonList should = toJsonList should' ∧
      toJsonList mustNot = toJsonList mustNot' ∧ minimum = minimum' := by
  simp only [toJson, Json.object.injEq, List.cons.injEq, Prod.mk.injEq, true_and, and_true] at h
  have hfound (key : String) := congrArg (Table.get? · key) h
  have hmust := hfound "must"
  have hshould := hfound "should"
  have hmustNot := hfound "must_not"
  have hminimum := hfound "minimum_should_match"
  simp only [Table.get?_append, get?_whenSome, get?_whenNonempty, ↓reduceIte, String.reduceEq,
    Option.or_none, Option.none_or, Option.or_self] at hmust hshould hmustNot hminimum
  have harray : Function.Injective Json.array := fun _ _ => Json.array.inj
  exact ⟨eq_of_ite_eq harray hmust, eq_of_ite_eq harray hshould, eq_of_ite_eq harray hmustNot,
    Option.map_injective word_injective hminimum⟩

mutual

/-- **The written form of a query determines it.** -/
theorem eq_of_toJson_eq : (q r : Query) → q.IsFinite → r.IsFinite → q.toJson = r.toJson → q = r
  | .matchAll, r, _, _, h => by
    cases r with
    | matchAll => rfl
    | clause d => exact absurd h.symm (d.toJson_ne (by decide))
    | _ => simp [toJson] at h
  | .matchNone, r, _, _, h => by
    cases r with
    | matchNone => rfl
    | clause d => exact absurd h.symm (d.toJson_ne (by decide))
    | _ => simp [toJson] at h
  | .clause c, r, hq, hr, h => by
    cases r with
    | clause d =>
      rw [Clause.eq_of_toJson_eq (List.forall_mem_singleton.mp hq)
        (List.forall_mem_singleton.mp hr) h]
    | _ => exact absurd h (c.toJson_ne (by decide))
  | .bool must should mustNot minimum, r, hq, hr, h => by
    cases r with
    | clause d => exact absurd h.symm (d.toJson_ne (by decide))
    | bool must' should' mustNot' minimum' =>
      obtain ⟨hmust, hshould, hmustNot, hminimum⟩ := parts_eq_of_toJson_eq h
      obtain ⟨hq₁, hq₂, hq₃⟩ := isFinite_bool_iff.mp hq
      obtain ⟨hr₁, hr₂, hr₃⟩ := isFinite_bool_iff.mp hr
      rw [eq_of_toJsonList_eq must must' hq₁ hr₁ hmust,
        eq_of_toJsonList_eq should should' hq₂ hr₂ hshould,
        eq_of_toJsonList_eq mustNot mustNot' hq₃ hr₃ hmustNot, hminimum]
    | _ => simp [toJson] at h

theorem eq_of_toJsonList_eq : (qs rs : List Query) → (∀ q ∈ qs, q.IsFinite) →
    (∀ r ∈ rs, r.IsFinite) → toJsonList qs = toJsonList rs → qs = rs
  | [], [], _, _, _ => rfl
  | [], _ :: _, _, _, h => nomatch h
  | _ :: _, [], _, _, h => nomatch h
  | q :: qs, r :: rs, hqs, hrs, h => by
    obtain ⟨hq, hqs⟩ := List.forall_mem_cons.mp hqs
    obtain ⟨hr, hrs⟩ := List.forall_mem_cons.mp hrs
    rw [toJsonList, toJsonList, List.cons.injEq] at h
    rw [eq_of_toJson_eq q r hq hr h.1, eq_of_toJsonList_eq qs rs hqs hrs h.2]

end

end Query

end SearchBridge
