import SearchBridge.Proofs.Query.Truth

/-!
# Joins of queries that set a minimum

The joins tell conjunctions and disjunctions by their lists alone. Where they merge two lists, or
add a query to the list on the left, the minimum of the left operand stays and then counts what was
added too, and the minimum of the right operand is dropped. So a conjunction that is never true,
since it asks for an optional query and has none, loses this when it is merged into another one, and
a disjunction that asks for two of its queries asks for two of all queries after a join. Only where
a minimum is lost or shared in this way is a join not the boolean operation that it is meant to be.

## Main definitions

* `Query.LosesMinimum` : where `Query.and` is not the conjunction.
* `Query.SharesMinimum` : where `Query.or` is not the disjunction.

## Main results

* `Query.eval_and_eq_iff`, `Query.eval_or_eq_iff` : when the joins are the boolean operations.
* `Query.joins_are_boolean_iff` : all three combinators on all queries.
-/

namespace SearchBridge

namespace Query

variable (v : Clause → Bool)

/-! ### Lists of one kind -/

/-- Without optional queries, the threshold does not depend on the required ones. -/
theorem threshold_nil (must must' : List Query) (minimum : Option UInt32) :
    threshold must [] minimum = threshold must' [] minimum := by
  cases minimum with
  | none => simp [threshold]
  | some minimum => rfl

/-- More optional queries do not change the threshold. -/
theorem threshold_append {should : List Query} (h : should ≠ []) (should' : List Query)
    (minimum : Option UInt32) :
    threshold [] (should ++ should') minimum = threshold [] should minimum := by
  cases minimum with
  | none => simp [threshold, h]
  | some minimum => rfl

/-! ### Where the joins go wrong -/

/-- A list of required queries that are true is merged with another one that is true but for its
minimum, which it cannot meet. -/
inductive LosesMinimum : Query → Query → Prop
  | merged {must must' : List Query} {minimum minimum' : Option UInt32} (hleft : must ≠ [])
      (hright : must' ≠ []) (hmet : threshold must [] minimum = 0)
      (hunmet : threshold must' [] minimum' ≠ 0) (hall : must.all (eval v))
      (hall' : must'.all (eval v)) :
      LosesMinimum (.bool must [] [] minimum) (.bool must' [] [] minimum')

/-- The minimum of a list of optional queries counts what a join adds to the list. Too few queries
are true for it although the right operand is, or enough are although neither operand is. -/
inductive SharesMinimum : Query → Query → Prop
  | addedTooFew {should : List Query} {b : Query} {minimum : Option UInt32} (hleft : should ≠ [])
      (hright : b.isDisjunction = false) (hb : b.eval v)
      (hfew : should.countP (eval v) + 1 < threshold [] should minimum) :
      SharesMinimum (.bool [] should [] minimum) b
  | mergedTooFew {should should' : List Query} {minimum minimum' : Option UInt32}
      (hleft : should ≠ []) (hright : should' ≠ [])
      (hb : threshold [] should' minimum' ≤ should'.countP (eval v))
      (hfew : should.countP (eval v) + should'.countP (eval v) < threshold [] should minimum) :
      SharesMinimum (.bool [] should [] minimum) (.bool [] should' [] minimum')
  | mergedEnough {should should' : List Query} {minimum minimum' : Option UInt32}
      (hleft : should ≠ []) (hright : should' ≠ [])
      (ha : should.countP (eval v) < threshold [] should minimum)
      (hb : should'.countP (eval v) < threshold [] should' minimum')
      (henough : threshold [] should minimum ≤ should.countP (eval v) + should'.countP (eval v)) :
      SharesMinimum (.bool [] should [] minimum) (.bool [] should' [] minimum')

/-- Only conjunctions lose a minimum. -/
theorem LosesMinimum.isConjunction {a b : Query} (h : LosesMinimum v a b) :
    a.isConjunction = true ∧ b.isConjunction = true := by
  cases h with
  | merged hleft hright =>
    exact ⟨isConjunction_of_ne_nil hleft _, isConjunction_of_ne_nil hright _⟩

/-- Only a disjunction shares its minimum. -/
theorem SharesMinimum.isDisjunction {a b : Query} (h : SharesMinimum v a b) :
    a.isDisjunction = true := by
  cases h with
  | addedTooFew hleft => exact isDisjunction_of_ne_nil hleft _
  | mergedTooFew hleft => exact isDisjunction_of_ne_nil hleft _
  | mergedEnough hleft => exact isDisjunction_of_ne_nil hleft _

/-- Two conjunctions lose a minimum if all queries of both are true and only the one on the right
cannot meet its minimum. -/
theorem losesMinimum_merged_iff {must must' : List Query} {minimum minimum' : Option UInt32}
    (hleft : must ≠ []) (hright : must' ≠ []) :
    LosesMinimum v (.bool must [] [] minimum) (.bool must' [] [] minimum') ↔
      threshold must [] minimum = 0 ∧ threshold must' [] minimum' ≠ 0 ∧
        must.all (eval v) = true ∧ must'.all (eval v) = true := by
  constructor
  · intro h
    cases h with
    | merged _ _ hmet hunmet hall hall' => exact ⟨hmet, hunmet, hall, hall'⟩
  · rintro ⟨hmet, hunmet, hall, hall'⟩
    exact .merged hleft hright hmet hunmet hall hall'

/-- A disjunction that a query is added to shares its minimum if too few of all queries are true. -/
theorem sharesMinimum_added_iff {should : List Query} {b : Query} {minimum : Option UInt32}
    (hleft : should ≠ []) (hright : b.isDisjunction = false) :
    SharesMinimum v (.bool [] should [] minimum) b ↔
      b.eval v = true ∧ should.countP (eval v) + 1 < threshold [] should minimum := by
  constructor
  · intro h
    cases h with
    | addedTooFew _ _ hb hfew => exact ⟨hb, hfew⟩
    | mergedTooFew _ hright' => simp [isDisjunction_of_ne_nil hright'] at hright
    | mergedEnough _ hright' => simp [isDisjunction_of_ne_nil hright'] at hright
  · rintro ⟨hb, hfew⟩
    exact .addedTooFew hleft hright hb hfew

/-- Two disjunctions share a minimum if counting together and counting apart differ. -/
theorem sharesMinimum_merged_iff {should should' : List Query} {minimum minimum' : Option UInt32}
    (hleft : should ≠ []) (hright : should' ≠ []) :
    SharesMinimum v (.bool [] should [] minimum) (.bool [] should' [] minimum') ↔
      ¬(threshold [] should minimum ≤ should.countP (eval v) + should'.countP (eval v) ↔
        threshold [] should minimum ≤ should.countP (eval v) ∨
          threshold [] should' minimum' ≤ should'.countP (eval v)) := by
  constructor
  · intro h
    cases h with
    | addedTooFew _ hright' => simp [isDisjunction_of_ne_nil hright] at hright'
    | mergedTooFew _ _ hb hfew => omega
    | mergedEnough _ _ ha hb henough => omega
  · intro h
    by_cases hb : threshold [] should' minimum' ≤ should'.countP (eval v)
    · exact .mergedTooFew hleft hright hb (by omega)
    · exact .mergedEnough hleft hright (by omega) (by omega) (by omega)

/-- `Query.and` is the conjunction except where a minimum is lost. -/
theorem eval_and_eq_iff (a b : Query) :
    (a.and b).eval v = (a.eval v && b.eval v) ↔ ¬LosesMinimum v a b := by
  generalize hc : a.and b = c
  have hjoin : AndJoin a b c := hc ▸ andJoin_and a b
  cases hjoin with
  | dropLeft =>
    refine iff_of_true (by rw [eval_matchAll, Bool.true_and]) ?_
    rintro ⟨⟩
  | dropRight =>
    refine iff_of_true (by rw [eval_matchAll, Bool.and_true]) ?_
    rintro ⟨⟩
  | @merge must must' minimum minimum' hleft hright =>
    rw [losesMinimum_merged_iff v hleft hright, eval_required, eval_required, eval_required,
      List.all_append, threshold_nil (must ++ must') must]
    cases must.all (eval v) <;> cases must'.all (eval v) <;> simp
  | @push must b minimum hleft hright hall =>
    refine iff_of_true ?_ fun h => ?_
    · rw [eval_required, eval_required, List.all_append, threshold_nil (must ++ [b]) must]
      simp [Bool.and_right_comm]
    · exact absurd h.isConjunction.2 (by simp [hright])
  | pair hleft halls =>
    refine iff_of_true ?_ fun h => ?_
    · rw [eval_conjunction]
      simp
    · exact absurd h.isConjunction.1 (by simp [hleft])

/-- `Query.or` is the disjunction except where a minimum is shared. -/
theorem eval_or_eq_iff (a b : Query) :
    (a.or b).eval v = (a.eval v || b.eval v) ↔ ¬SharesMinimum v a b := by
  generalize hc : a.or b = c
  have hjoin : OrJoin a b c := hc ▸ orJoin_or a b
  cases hjoin with
  | dropLeft =>
    refine iff_of_true (by rw [eval_matchNone, Bool.false_or]) ?_
    rintro ⟨⟩
  | dropRight =>
    refine iff_of_true (by rw [eval_matchNone, Bool.or_false]) ?_
    rintro ⟨⟩
    next hb => cases hb
  | @merge should should' minimum minimum' hleft hright =>
    rw [sharesMinimum_merged_iff v hleft hright, not_not, eval_optional, eval_optional,
      eval_optional, List.countP_append, threshold_append hleft, ← Bool.decide_or,
      decide_eq_decide]
  | @push should b minimum hleft hright hnone =>
    rw [sharesMinimum_added_iff v hleft hright, eval_optional, eval_optional,
      List.countP_append, threshold_append hleft]
    cases hb : b.eval v <;> simp [hb]
  | pair hleft hnones =>
    refine iff_of_true ?_ fun h => ?_
    · rw [eval_disjunction]
      simp
    · exact absurd h.isDisjunction (by simp [hleft])

/-- **When the combinators are the boolean operations.** For all queries, and whatever the truth of
clauses, `Query.and` is the conjunction exactly if no minimum is lost, `Query.or` is the disjunction
exactly if no minimum is shared, and `Query.negate` is the negation. -/
theorem joins_are_boolean_iff (a b : Query) :
    ((a.and b).eval v = (a.eval v && b.eval v) ↔ ¬LosesMinimum v a b) ∧
      ((a.or b).eval v = (a.eval v || b.eval v) ↔ ¬SharesMinimum v a b) ∧
      a.negate.eval v = !a.eval v :=
  ⟨eval_and_eq_iff v a b, eval_or_eq_iff v a b, eval_negate v a⟩

/-- The combinators are not the boolean operations on all queries. If only the third of three
clauses is true, the disjunction that asks for both of the other two is false, and it stays so when
it is joined with the third clause, which does not meet the minimum two alone. -/
theorem not_forall_joins_are_boolean :
    ¬∀ (v : Clause → Bool) (a b : Query), (a.and b).eval v = (a.eval v && b.eval v) ∧
      (a.or b).eval v = (a.eval v || b.eval v) ∧ a.negate.eval v = !a.eval v := by
  intro h
  have hor := (h (fun c => c == .ids ["3"])
    (.bool [] [.clause (.ids ["1"]), .clause (.ids ["2"])] [] (some 2)) (.clause (.ids ["3"]))).2.1
  exact absurd hor (by decide)

/-- The conjunction on the right cannot meet its minimum, and the join is true all the same. -/
example :
    let a : Query := .bool [.clause (.ids ["1"])] [] [] none
    let b : Query := .bool [.clause (.ids ["2"])] [] [] (some 1)
    (a.and b).eval (fun _ => true) = true ∧ b.eval (fun _ => true) = false := by decide

end Query

end SearchBridge
