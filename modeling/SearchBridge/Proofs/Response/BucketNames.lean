import Mathlib.Data.Option.Basic
import SearchBridge.Proofs.Json.Writing
import SearchBridge.Proofs.Response.Parts

/-!
# The names of numeric buckets

A bucket whose key is a number is reported under the number's text. The engine may write the key of
a whole number with a fraction or without one, and a zero with either sign; while the number is
below `10 ^ 15` in magnitude, all of these are reported under its plain decimal. From there on a key
with a fraction is reported as JSON writes it, with a fraction or an exponent, and so never under
the name of the key without one.

## Main definitions

* `Binary64.Finite.value` : the number that a double stands for.
* `Json.IsWhole` : the JSON numbers of an integer.
* `Aggregate.Alike` : the same counts, the keys of whole numbers being written in either way.

## Main results

* `bucketName_of_isWhole` : the name of a whole number.
* `SearchResult.toResponse_of_alike` : the way keys are written does not show in a response.
* `bucketName_whole_keys` : which keys are named alike.
-/

namespace SearchBridge

open Binary64 (Finite)

/-! ### Whole numbers among the doubles -/

namespace Binary64.Finite

variable {x : Finite} {m : ℤ}

/-- The number that a finite double stands for. -/
def value (x : Finite) : ℚ := (if x.negative then -1 else 1) * x.numerator / unit

/-- The value of a double is compared with an integer on the finest grid. -/
theorem value_eq_intCast_iff :
    x.value = m ↔ (if x.negative then -1 else 1) * (x.numerator : ℤ) = m * unit := by
  have hunit : (unit : ℚ) ≠ 0 := Nat.cast_ne_zero.mpr unit_pos.ne'
  rw [value, div_eq_iff hunit]
  split <;> exact_mod_cast Iff.rfl

theorem numerator_of_value_eq (h : x.value = m) : x.numerator = m.natAbs * unit := by
  have hgrid := congrArg Int.natAbs (value_eq_intCast_iff.mp h)
  rw [Int.natAbs_mul, Int.natAbs_mul, Int.natAbs_natCast, Int.natAbs_natCast] at hgrid
  rw [← hgrid]
  split <;> exact (Nat.one_mul _).symm

theorem isWhole_of_value_eq (h : x.value = m) : x.isWhole = true := by
  rw [isWhole, numerator_of_value_eq h, Nat.mul_mod_left]
  rfl

theorem floor_of_value_eq (h : x.value = m) : x.floor = m.natAbs := by
  rw [floor, numerator_of_value_eq h, Nat.mul_div_cancel _ unit_pos]

/-- Nothing is cut off from an integer. -/
theorem truncate_of_value_eq (h : x.value = m) : x.truncate = m := by
  have hgrid := value_eq_intCast_iff.mp h
  have hunit : (0 : ℤ) < unit := Int.natCast_pos.mpr unit_pos
  have hnumerator : (0 : ℤ) ≤ x.numerator := Int.natCast_nonneg _
  rw [truncate, floor_of_value_eq h]
  split at hgrid
  · next hnegative =>
    have hm : m ≤ 0 := by
      by_contra hpos
      have hproduct := Int.mul_pos (Int.not_le.mp hpos) hunit
      omega
    rw [if_pos hnegative, Int.ofNat_natAbs_of_nonpos hm, Int.neg_neg]
  · next hpositive =>
    have hm : 0 ≤ m := by
      by_contra hneg
      have hproduct := Int.mul_neg_of_neg_of_pos (Int.not_le.mp hneg) hunit
      omega
    rw [if_neg hpositive, Int.natAbs_of_nonneg hm]

end Binary64.Finite

/-! ### Names of whole numbers -/

/-- The JSON numbers of an integer: the integer itself, and the doubles of that value. -/
def Json.IsWhole (m : ℤ) : Json → Prop
  | .number (.integer n) => n = m
  | .number (.float x) => x.value = m
  | _ => False

/-- A double of integral value is named by its integer up to a magnitude, and as JSON writes it from
there on. -/
theorem bucketName_float {x : Finite} {m : ℤ} (h : x.value = m) :
    bucketName (.number (.float x)) =
      if m.natAbs < 10 ^ 15 then toString m else (Json.Number.float x).text := by
  have hwhole : (x.isWhole ∧ x.floor < Decimal.tenTo 15) ↔ m.natAbs < 10 ^ 15 := by
    rw [Finite.floor_of_value_eq h, Decimal.Interval.tenTo_eq]
    exact and_iff_right (Finite.isWhole_of_value_eq h)
  rw [bucketName, Finite.truncate_of_value_eq h]
  exact if_congr hwhole rfl rfl

theorem bucketName_int (m : ℤ) : bucketName (Json.int m) = toString m := by
  rfl

/-- A whole number is named by its plain decimal, in whatever way it is written. -/
theorem bucketName_of_isWhole {m : ℤ} {v : Json} (h : v.IsWhole m) (hm : m.natAbs < 10 ^ 15) :
    bucketName v = toString m := by
  cases v with
  | number n =>
    cases n with
    | integer n =>
      obtain rfl : n = m := h
      exact bucketName_int n
    | float x => rw [bucketName_float h, if_pos hm]
  | null | bool | string | array | object => exact h.elim

/-! ### Responses -/

/-- Two keys that are equal or written forms of one whole number below `10 ^ 15` in magnitude. -/
def Json.SameKey (v w : Json) : Prop :=
  v = w ∨ ∃ m : ℤ, m.natAbs < 10 ^ 15 ∧ v.IsWhole m ∧ w.IsWhole m

/-- Two buckets that differ at most in the way their keys are written. -/
structure Bucket.Alike (b c : Bucket) : Prop where
  key : b.key.SameKey c.key
  keyText : b.keyText = c.keyText
  docCount : b.docCount = c.docCount

/-- Two aggregates that differ at most in the way the keys of their buckets are written. -/
inductive Aggregate.Alike : Aggregate → Aggregate → Prop
  | buckets {bs cs : List Bucket} (h : List.Forall₂ Bucket.Alike bs cs) :
      Aggregate.Alike (.buckets bs) (.buckets cs)
  | single (docCount : UInt64) {s t : List (String × Aggregate)}
      (h : ∀ key, Option.Rel Aggregate.Alike (Table.get? s key) (Table.get? t key)) :
      Aggregate.Alike (.single docCount s) (.single docCount t)
  | other (v : Json) : Aggregate.Alike (.other v) (.other v)

/-- Two tables that hold aggregates alike under each key. -/
def Table.HoldAlike (s t : Table Aggregate) : Prop :=
  ∀ key, Option.Rel Aggregate.Alike (s.get? key) (t.get? key)

/-- A bucket is named alike in whatever way its key is written. -/
theorem Bucket.Alike.facetCount_eq {b c : Bucket} (h : b.Alike c) :
    b.facetCount = c.facetCount := by
  have hname : bucketName b.key = bucketName c.key := by
    rcases h.key with heq | ⟨m, hm, hb, hc⟩
    · rw [heq]
    · rw [bucketName_of_isWhole hb hm, bucketName_of_isWhole hc hm]
  rw [facetCount, facetCount, hname, h.keyText, h.docCount]

theorem bucketCounts_of_alike {bs cs : List Bucket} (h : List.Forall₂ Bucket.Alike bs cs) :
    bucketCounts bs = bucketCounts cs := by
  induction h with
  | nil => rfl
  | cons hbc _ ih => rw [bucketCounts_cons, bucketCounts_cons, hbc.facetCount_eq, hbc.docCount, ih]

/-- The counts under a key do not depend on the way the keys of buckets are written, neither of
those that stand under it nor of those that a single bucket holds under it once more. -/
theorem countsUnder_of_holdAlike {s t : Table Aggregate} (h : s.HoldAlike t)
    (key valueId : String) : countsUnder s key valueId = countsUnder t key valueId := by
  have hkey := h key
  rw [countsUnder, countsUnder]
  generalize s.get? key = a at hkey ⊢
  generalize t.get? key = b at hkey ⊢
  cases hkey with
  | none => rfl
  | some halike =>
    cases halike with
    | buckets hbuckets => exact bucketCounts_of_alike hbuckets
    | other => rfl
    | @single docCount s t hnested =>
      have hbelow := hnested key
      dsimp only
      generalize Table.get? s key = a at hbelow ⊢
      generalize Table.get? t key = b at hbelow ⊢
      cases hbelow with
      | none => rfl
      | some halike =>
        cases halike with
        | buckets hbuckets => exact bucketCounts_of_alike hbuckets
        | single | other => rfl

/-- The way keys are written does not show in a response. -/
theorem SearchResponse.ofResult_of_holdAlike (r : SearchResult) {t : Table Aggregate}
    (h : r.aggregations.HoldAlike t) (request : Option SearchRequest) :
    SearchResponse.ofResult { r with aggregations := t } request =
      SearchResponse.ofResult r request := by
  have hresult : Facet.result? t = Facet.result? r.aggregations := by
    funext f
    rw [Facet.result?, Facet.result?, Facet.counts, Facet.counts]
    simp only [countsUnder_of_holdAlike h]
  rw [ofResult, ofResult, SearchResult.toResponse, SearchResult.toResponse, hresult]
  rfl

/-- **The names of numeric buckets.** The key of an integer is named by its plain decimal. The key
of a double with the same value, be it a zero of either sign, is named alike exactly below
`10 ^ 15` in magnitude; from there on it is named as JSON writes it, with a fraction or an exponent.
So two results in which the keys of whole numbers below that bound are written with a fraction in
one and without one in the other, in lists of buckets and in those below single buckets, make the
same response to every request. -/
theorem bucketName_whole_keys :
    (∀ m : ℤ, bucketName (Json.int m) = toString m) ∧
    (∀ (m : ℤ) (x : Finite), x.value = m →
      (bucketName (.number (.float x)) = bucketName (Json.int m) ↔ m.natAbs < 10 ^ 15) ∧
      (10 ^ 15 ≤ m.natAbs → bucketName (.number (.float x)) = (Json.Number.float x).text ∧
        ∃ c ∈ (Json.Number.float x).text.toList, c = '.' ∨ c = 'e')) ∧
    ∀ (r : SearchResult) (t : Table Aggregate), r.aggregations.HoldAlike t →
      ∀ request, SearchResponse.ofResult { r with aggregations := t } request =
        SearchResponse.ofResult r request := by
  refine ⟨bucketName_int, fun m x hx => ⟨⟨fun heq => ?_, fun hm => ?_⟩, fun hm => ⟨?_, ?_⟩⟩,
    fun r t h request => SearchResponse.ofResult_of_holdAlike r h request⟩
  · by_contra hm
    rw [bucketName_float hx, if_neg hm, bucketName_int] at heq
    exact Json.render_ne_toString x m heq
  · rw [bucketName_float hx, if_pos hm, bucketName_int]
  · rw [bucketName_float hx, if_neg (Nat.not_lt.mpr hm)]
  · exact Json.exists_mark_mem_render x

/-- A negative key with and without fraction, the greatest one below the bound, and a negative zero
in buckets below a single bucket. -/
theorem bucketName_whole_keys_below_single :
    let low : Finite := ⟨true, 8796093022208000, 1029, by decide, by decide, by decide⟩
    let high : Finite := ⟨false, 7999999999999992, 1071, by decide, by decide, by decide⟩
    let s : Table Aggregate := [("price", .single 9 [("price",
      .buckets [⟨.number (.float low), none, 2⟩, ⟨.number (.float (.zero true)), none, 3⟩])])]
    let t : Table Aggregate := [("price", .single 9 [("price",
      .buckets [⟨Json.int (-250), none, 2⟩, ⟨Json.int 0, none, 3⟩])])]
    let r : SearchResult := { page := { total := some (.count 9) }, aggregations := s }
    let request : SearchRequest :=
      { facets := [{ fieldName := "price", counted := .terms none none }] }
    low.value = ((-250 : ℤ) : ℚ) ∧
      bucketName (.number (.float low)) = bucketName (Json.int (-250)) ∧
      high.value = ((999999999999999 : ℤ) : ℚ) ∧
      bucketName (.number (.float high)) = bucketName (Json.int 999999999999999) ∧
      s.HoldAlike t ∧
      SearchResponse.ofResult { r with aggregations := t } (some request) =
        SearchResponse.ofResult r (some request) := by
  intro low high s t r request
  have hlow : low.value = ((-250 : ℤ) : ℚ) := Finite.value_eq_intCast_iff.mpr (by decide +kernel)
  have hzero : (Finite.zero true).value = ((0 : ℤ) : ℚ) :=
    Finite.value_eq_intCast_iff.mpr (by decide +kernel)
  have hhigh : high.value = ((999999999999999 : ℤ) : ℚ) :=
    Finite.value_eq_intCast_iff.mpr (by decide +kernel)
  have hbuckets : List.Forall₂ Bucket.Alike
      [⟨.number (.float low), none, 2⟩, ⟨.number (.float (.zero true)), none, 3⟩]
      [⟨Json.int (-250), none, 2⟩, ⟨Json.int 0, none, 3⟩] :=
    .cons ⟨Or.inr ⟨-250, by decide, hlow, rfl⟩, rfl, rfl⟩
      (.cons ⟨Or.inr ⟨0, by decide, hzero, rfl⟩, rfl, rfl⟩ .nil)
  have hsole {a b : Aggregate} (h : a.Alike b) : Table.HoldAlike [("price", a)] [("price", b)] := by
    intro key
    rw [Table.get?_cons, Table.get?_cons]
    split
    · exact .some h
    · exact .none
  have halike : s.HoldAlike t := hsole (.single 9 (hsole (.buckets hbuckets)))
  obtain ⟨-, hnames, hresponses⟩ := bucketName_whole_keys
  exact ⟨hlow, (hnames _ low hlow).1.mpr (by decide), hhigh,
    (hnames _ high hhigh).1.mpr (by decide), halike, hresponses r t halike (some request)⟩

/-- The key `1e15` is named with its fraction, unlike the integer. -/
theorem not_forall_whole_keys_named_alike :
    ¬∀ (m : ℤ) (x : Finite), Int64.minValue.toInt ≤ m → m ≤ Int64.maxValue.toInt → x.value = m →
      bucketName (.number (.float x)) = toString m ∧ bucketName (Json.int m) = toString m := by
  intro h
  let x : Finite := ⟨false, 8000000000000000, 1071, by decide, by decide, by decide⟩
  have hx : x.value = ((1000000000000000 : ℤ) : ℚ) :=
    Finite.value_eq_intCast_iff.mpr (by decide +kernel)
  have hname := (h _ x (by decide) (by decide) hx).1
  rw [bucketName_float hx, if_neg (by decide)] at hname
  exact Json.render_ne_toString x _ hname

end SearchBridge
