import SearchBridge.Proofs.Filter.Lowering
import SearchBridge.Proofs.Query.Plain

/-!
# The meaning of filters

A filter that puts no condition on documents is vacuous: a range without intervals, and a negation
without operand or of a vacuous operand. Every other filter is true or false of a document. A leaf
means its own clause, except that a range means that the value of its field lies in one of its
intervals. A negation, a conjunction and a disjunction mean what they say, vacuous operands of the
latter two being left out.

Lowering keeps this meaning: nothing is lowered exactly from vacuous filters, and the query lowered
from any other filter is true of exactly the documents of which the filter is. The invariant is that
lowered queries are plain.

## Main definitions

* `Evidence.liesIn` : membership of a field's value in an interval.
* `Filter.isVacuous`, `Filter.meaning` : the reference meaning of filters.

## Main results

* `Filter.lower?_preserves_meaning` : lowering keeps the meaning of every filter.
-/

namespace SearchBridge

variable {α : Type*} [Preorder α] [DecidableLE α] [DecidableLT α] (e : Evidence α)

/-- The value of a field lies in an interval: an end point that is missing or empty leaves its side
open, and any other one is compared strictly unless it belongs to the interval. -/
def Evidence.liesIn (field : String) (i : Interval) : Bool :=
  i.lower.all (fun s => s.isEmpty ||
      if i.includeLower then e.bound field s ≤ e.value field
      else e.bound field s < e.value field) &&
    i.upper.all (fun s => s.isEmpty ||
      if i.includeUpper then e.value field ≤ e.bound field s
      else e.value field < e.bound field s)

/-- The bounds of an interval say that the value lies in it. -/
theorem Evidence.within_bounds (field : String) (i : Interval) :
    e.within field i.bounds = e.liesIn field i := by
  obtain ⟨lower, upper, includeLower, includeUpper⟩ := i
  have hall (end? : Option String) (p : String → Bool) :
      (Interval.bound? end?).all p = end?.all fun s => s.isEmpty || p s := by
    cases end? with
    | none => rfl
    | some s =>
      by_cases hs : s.isEmpty <;> simp [Interval.bound?, hs]
  cases includeLower <;> cases includeUpper <;>
    simp [within, liesIn, Interval.bounds, RangeBounds.of, Interval.lowerBound?,
      Interval.upperBound?, hall]

namespace Filter

/-- A filter that puts no condition on documents. -/
def isVacuous : Filter → Bool
  | .range _ intervals => intervals.isEmpty
  | .not none => true
  | .not (some f) => f.isVacuous
  | _ => false

@[simp] theorem isVacuous_and (fs : List Filter) : (Filter.and fs).isVacuous = false := rfl

@[simp] theorem isVacuous_or (fs : List Filter) : (Filter.or fs).isVacuous = false := rfl

mutual

/-- The meaning of a filter that is not vacuous. -/
def meaning (catalog : Catalog) (e : Evidence α) : Filter → Bool
  | .ids values => e.clause (.ids values)
  | .term name values =>
    e.clause (.terms (SearchBridge.fieldName name) (indexTerms catalog name values))
  | .range name intervals => intervals.any (e.liesIn (SearchBridge.fieldName name))
  | .geoDistance name centre distance =>
    e.clause (.geoDistance (SearchBridge.fieldName name) centre distance)
  | .wildcard name pattern => e.clause (.wildcard (SearchBridge.fieldName name) pattern)
  | .not none => true
  | .not (some f) => !meaning catalog e f
  | .and fs => (meanings catalog e fs).all id
  | .or fs => (meanings catalog e fs).any id

/-- The meanings of the filters in a list that are not vacuous. -/
def meanings (catalog : Catalog) (e : Evidence α) : List Filter → List Bool
  | [] => []
  | f :: rest =>
    if f.isVacuous then meanings catalog e rest
    else meaning catalog e f :: meanings catalog e rest

end

variable (catalog : Catalog)

/-- Lowering leaves no query that is not plain. -/
theorem joinClosed_isPlain : Query.JoinClosed Query.IsPlain where
  clause _ := trivial
  matchAll := trivial
  matchNone := trivial
  and := Query.IsPlain.and
  or := Query.IsPlain.or
  negate _ := Query.isPlain_negate _

/-- The disjunction of intervals means that the value lies in one of them. -/
theorem holds_anyOf?_intervals (field : String) (intervals : List Interval) :
    (anyOf? (intervals.map (intervalQuery field))).map (Query.holds e) =
      if intervals.isEmpty then none else some (intervals.any (e.liesIn field)) := by
  cases intervals with
  | nil => rfl
  | cons i intervals =>
    have hplain : ∀ q ∈ intervals.map (intervalQuery field), q.IsPlain := by
      intro q hq
      obtain ⟨j, _, rfl⟩ := List.mem_map.mp hq
      trivial
    have hinterval (j : Interval) :
        (intervalQuery field j).holds e = e.liesIn field j := e.within_bounds field j
    simp only [List.map_cons, anyOf?, Option.map_some, List.isEmpty_cons, Bool.false_eq_true,
      ↓reduceIte, List.any_cons]
    rw [Query.holds_foldl_or e (q := intervalQuery field i) trivial hplain, hinterval, List.any_map]
    exact congrArg some (congrArg _ (congrArg _ (funext hinterval)))

mutual

/-- The query lowered from a filter has the filter's meaning, and there is none for a vacuous
filter. -/
theorem map_holds_lower? : (f : Filter) → (f.lower? catalog).map (Query.holds e) =
    if f.isVacuous then none else some (f.meaning catalog e)
  | .ids _ | .term _ _ | .geoDistance _ _ _ | .wildcard _ _ => rfl
  | .range name intervals => holds_anyOf?_intervals e (SearchBridge.fieldName name) intervals
  | .not none => rfl
  | .not (some f) => by
    have hnegate : Query.holds e ∘ Query.negate = Bool.not ∘ Query.holds e :=
      funext fun q => q.holds_negate e
    rw [lower?, Option.map_map, hnegate, ← Option.map_map, map_holds_lower? f, isVacuous, meaning]
    split <;> rfl
  | .and fs => by
    have hplain := joinClosed_isPlain.lowerList catalog fs
    rw [lower?, Option.map_some, Query.holds_foldl_and e hplain,
      Query.holds_matchAll, Bool.true_and, isVacuous_and, if_neg Bool.false_ne_true, meaning,
      ← map_holds_lowerList fs, List.all_map]
    rfl
  | .or fs => by
    have hplain := joinClosed_isPlain.lowerList catalog fs
    rw [lower?, Option.map_some, Query.holds_foldl_or e (q := .matchNone) trivial hplain,
      Query.holds_matchNone, Bool.false_or, isVacuous_or, if_neg Bool.false_ne_true, meaning,
      ← map_holds_lowerList fs, List.any_map]
    rfl

/-- The queries lowered from a list have the meanings of its filters that are not vacuous. -/
theorem map_holds_lowerList : (fs : List Filter) →
    (lowerList catalog fs).map (Query.holds e) = meanings catalog e fs
  | [] => rfl
  | f :: fs => by
    have hf := map_holds_lower? f
    rw [lowerList, List.map_append, map_holds_lowerList fs, meanings, ← Option.toList_map, hf]
    split <;> rfl

end

/-- **Lowering keeps the meaning of filters.** Nothing is lowered exactly from vacuous filters, and
on every document the query lowered from any other filter is true if and only if the filter is. -/
theorem lower?_preserves_meaning (f : Filter) :
    (f.lower? catalog = none ↔ f.isVacuous = true) ∧
      (f.lower? catalog).map (Query.holds e) =
        if f.isVacuous then none else some (f.meaning catalog e) := by
  have h := map_holds_lower? e catalog f
  refine ⟨?_, h⟩
  rw [← Option.map_eq_none_iff (f := Query.holds e), h]
  cases f.isVacuous <;> simp

end Filter

end SearchBridge
