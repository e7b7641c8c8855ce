import SearchBridge.Proofs.Query.Minimum

/-!
# Plain queries

A conjunction that sets a positive minimum never holds, and a disjunction may set another minimum
than one. A query without such settings is called plain. The joins keep queries plain, and on plain
queries they are the boolean operations.

## Main definitions

* `Query.IsPlain` : the invariant of joined queries.

## Main results

* `Query.IsPlain.and`, `Query.IsPlain.or` : joined queries are plain.
* `Query.holds_and`, `Query.holds_or` : the joins on plain queries.
* `Query.holds_foldl_and`, `Query.holds_foldl_or` : the joins of lists of plain queries.
-/

namespace SearchBridge

variable (v : Clause → Bool) {α : Type*} [Preorder α] [DecidableLE α] [DecidableLT α]
  (e : Evidence α)

namespace Query

/-- A query is *plain* when, being a conjunction, it sets no minimum, and being a disjunction, it
sets the minimum one. -/
def IsPlain : Query → Prop
  | .bool must should mustNot minimum =>
    ((bool must should mustNot minimum).isConjunction → minimum = none) ∧
      ((bool must should mustNot minimum).isDisjunction → minimum = some 1)
  | _ => True

/-- A conjunction is plain if it sets no minimum. -/
theorem isPlain_conjunction (must : List Query) : (Query.bool must [] [] none).IsPlain :=
  ⟨fun _ => rfl, fun h => ((isDisjunction_bool ..).mp h).1.elim rfl⟩

/-- A disjunction is plain if it sets the minimum one. -/
theorem isPlain_disjunction (should : List Query) : (Query.bool [] should [] (some 1)).IsPlain :=
  ⟨fun h => ((isConjunction_bool ..).mp h).1.elim rfl, fun _ => rfl⟩

theorem isPlain_negate (q : Query) : q.negate.IsPlain :=
  ⟨fun h => absurd ((isConjunction_bool ..).mp h).1 (by simp),
    fun h => absurd ((isDisjunction_bool ..).mp h).1 (by simp)⟩

/-- A plain conjunction sets no minimum. -/
theorem IsPlain.minimum_eq_none {must : List Query} {minimum : Option UInt32}
    (h : (Query.bool must [] [] minimum).IsPlain) (hmust : must ≠ []) : minimum = none :=
  h.1 (isConjunction_of_ne_nil hmust minimum)

/-- A plain disjunction sets the minimum one. -/
theorem IsPlain.minimum_eq_one {should : List Query} {minimum : Option UInt32}
    (h : (Query.bool [] should [] minimum).IsPlain) (hshould : should ≠ []) : minimum = some 1 :=
  h.2 (isDisjunction_of_ne_nil hshould minimum)

/-- Joining plain queries that both have to hold gives a plain query. -/
theorem IsPlain.and {a b : Query} (ha : a.IsPlain) (hb : b.IsPlain) : (a.and b).IsPlain := by
  generalize hc : a.and b = c
  obtain h := hc ▸ andJoin_and a b
  cases h with
  | dropLeft => exact hb
  | dropRight => exact ha
  | merge minimum minimum' hleft hright =>
    rw [ha.minimum_eq_none hleft]
    exact isPlain_conjunction _
  | push minimum hleft =>
    rw [ha.minimum_eq_none hleft]
    exact isPlain_conjunction _
  | pair => exact isPlain_conjunction _

/-- Joining plain queries of which one has to hold gives a plain query. -/
theorem IsPlain.or {a b : Query} (ha : a.IsPlain) (hb : b.IsPlain) : (a.or b).IsPlain := by
  generalize hc : a.or b = c
  obtain h := hc ▸ orJoin_or a b
  cases h with
  | dropLeft => exact hb
  | dropRight => exact ha
  | merge minimum minimum' hleft hright =>
    rw [ha.minimum_eq_one hleft]
    exact isPlain_disjunction _
  | push minimum hleft =>
    rw [ha.minimum_eq_one hleft]
    exact isPlain_disjunction _
  | pair => exact isPlain_disjunction _

/-- A plain conjunction has no minimum to lose. -/
theorem IsPlain.not_losesMinimum {a b : Query} (hb : b.IsPlain) : ¬LosesMinimum v a b := by
  intro h
  cases h with
  | merged _ hright _ hunmet =>
    obtain rfl := hb.minimum_eq_none hright
    simp [threshold] at hunmet

/-- To share the minimum one does no harm. -/
theorem IsPlain.not_sharesMinimum {a b : Query} (ha : a.IsPlain) (hb : b.IsPlain) :
    ¬SharesMinimum v a b := by
  have hone (should : List Query) : threshold [] should (some 1) = 1 := rfl
  intro h
  cases h with
  | addedTooFew hleft _ _ hfew =>
    obtain rfl := ha.minimum_eq_one hleft
    rw [hone] at hfew
    omega
  | mergedTooFew hleft hright hholds hfew =>
    obtain rfl := ha.minimum_eq_one hleft
    obtain rfl := hb.minimum_eq_one hright
    rw [hone] at hholds hfew
    omega
  | mergedEnough hleft hright hless hless' henough =>
    obtain rfl := ha.minimum_eq_one hleft
    obtain rfl := hb.minimum_eq_one hright
    rw [hone] at hless hless' henough
    omega

/-- With a plain query on the right, `Query.and` is the conjunction. -/
theorem holds_and {a b : Query} (hb : b.IsPlain) :
    (a.and b).holds e = (a.holds e && b.holds e) :=
  (eval_and_eq_iff e.satisfies a b).mpr (hb.not_losesMinimum e.satisfies)

/-- On plain queries, `Query.or` is the disjunction. -/
theorem holds_or {a b : Query} (ha : a.IsPlain) (hb : b.IsPlain) :
    (a.or b).holds e = (a.holds e || b.holds e) :=
  (eval_or_eq_iff e.satisfies a b).mpr (ha.not_sharesMinimum e.satisfies hb)

/-- Joining a list of plain queries to any one is their conjunction. -/
theorem holds_foldl_and {qs : List Query} (hqs : ∀ p ∈ qs, p.IsPlain) (q : Query) :
    (qs.foldl Query.and q).holds e = (q.holds e && qs.all (holds e)) := by
  induction qs generalizing q with
  | nil => simp
  | cons p qs ih =>
    obtain ⟨hp, hqs⟩ := List.forall_mem_cons.mp hqs
    rw [List.foldl_cons, ih hqs, holds_and e hp, List.all_cons, Bool.and_assoc]

/-- Joining a list of plain queries to a plain one is their disjunction. -/
theorem holds_foldl_or {q : Query} {qs : List Query} (hq : q.IsPlain)
    (hqs : ∀ p ∈ qs, p.IsPlain) :
    (qs.foldl Query.or q).holds e = (q.holds e || qs.any (holds e)) := by
  induction qs generalizing q with
  | nil => simp
  | cons p qs ih =>
    obtain ⟨hp, hqs⟩ := List.forall_mem_cons.mp hqs
    rw [List.foldl_cons, ih (hq.or hp) hqs, holds_or e hq hp, List.any_cons, Bool.or_assoc]

end Query

end SearchBridge
