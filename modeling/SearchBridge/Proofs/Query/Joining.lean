import SearchBridge.Query.Basic

/-!
# How queries are joined

`Query.and` and `Query.or` rewrite as they join: a neutral operand drops out, two lists of the same
kind become one, and any other operand is added to the list on its left. The relations `AndJoin` and
`OrJoin` list these ways with their guards, so that a property of joined queries is shown once for
each way and never by unfolding the joins.

## Main definitions

* `Query.AndJoin`, `Query.OrJoin` : the ways in which two queries are joined.

## Main results

* `Query.andJoin_and`, `Query.orJoin_or` : the joins go one of these ways.
-/

namespace SearchBridge

namespace Query

@[simp] theorem isConjunction_bool (must should mustNot : List Query) (minimum : Option UInt32) :
    (Query.bool must should mustNot minimum).isConjunction = true ↔
      must ≠ [] ∧ should = [] ∧ mustNot = [] := by
  simp [isConjunction, and_assoc]

@[simp] theorem isDisjunction_bool (must should mustNot : List Query) (minimum : Option UInt32) :
    (Query.bool must should mustNot minimum).isDisjunction = true ↔
      should ≠ [] ∧ must = [] ∧ mustNot = [] := by
  simp [isDisjunction, and_assoc]

/-- Required queries alone are a conjunction. -/
theorem isConjunction_of_ne_nil {must : List Query} (h : must ≠ []) (minimum : Option UInt32) :
    (Query.bool must [] [] minimum).isConjunction = true :=
  (isConjunction_bool ..).mpr ⟨h, rfl, rfl⟩

/-- Optional queries alone are a disjunction. -/
theorem isDisjunction_of_ne_nil {should : List Query} (h : should ≠ []) (minimum : Option UInt32) :
    (Query.bool [] should [] minimum).isDisjunction = true :=
  (isDisjunction_bool ..).mpr ⟨h, rfl, rfl⟩

/-- Only a boolean query is a conjunction. -/
theorem isConjunction_eq_false {q : Query}
    (hbool : ∀ must should mustNot minimum, q = .bool must should mustNot minimum → False) :
    q.isConjunction = false := by
  cases q with
  | bool must should mustNot minimum => exact (hbool _ _ _ _ rfl).elim
  | matchAll | matchNone | clause => rfl

/-- Only a boolean query is a disjunction. -/
theorem isDisjunction_eq_false {q : Query}
    (hbool : ∀ must should mustNot minimum, q = .bool must should mustNot minimum → False) :
    q.isDisjunction = false := by
  cases q with
  | bool must should mustNot minimum => exact (hbool _ _ _ _ rfl).elim
  | matchAll | matchNone | clause => rfl

/-- The ways in which `Query.and` joins two queries. -/
inductive AndJoin : Query → Query → Query → Prop
  | dropLeft (b : Query) : AndJoin .matchAll b b
  | dropRight (a : Query) : AndJoin a .matchAll a
  | merge {must must' : List Query} (minimum minimum' : Option UInt32) (hleft : must ≠ [])
      (hright : must' ≠ []) :
      AndJoin (.bool must [] [] minimum) (.bool must' [] [] minimum')
        (.bool (must ++ must') [] [] minimum)
  | push {must : List Query} {b : Query} (minimum : Option UInt32) (hleft : must ≠ [])
      (hright : b.isConjunction = false) (hall : b ≠ .matchAll) :
      AndJoin (.bool must [] [] minimum) b (.bool (must ++ [b]) [] [] minimum)
  | pair {a b : Query} (hleft : a.isConjunction = false) (halls : a ≠ .matchAll ∧ b ≠ .matchAll) :
      AndJoin a b (.bool [a, b] [] [] none)

/-- The ways in which `Query.or` joins two queries. -/
inductive OrJoin : Query → Query → Query → Prop
  | dropLeft (b : Query) : OrJoin .matchNone b b
  | dropRight (a : Query) : OrJoin a .matchNone a
  | merge {should should' : List Query} (minimum minimum' : Option UInt32) (hleft : should ≠ [])
      (hright : should' ≠ []) :
      OrJoin (.bool [] should [] minimum) (.bool [] should' [] minimum')
        (.bool [] (should ++ should') [] minimum)
  | push {should : List Query} {b : Query} (minimum : Option UInt32) (hleft : should ≠ [])
      (hright : b.isDisjunction = false) (hnone : b ≠ .matchNone) :
      OrJoin (.bool [] should [] minimum) b (.bool [] (should ++ [b]) [] minimum)
  | pair {a b : Query} (hleft : a.isDisjunction = false)
      (hnones : a ≠ .matchNone ∧ b ≠ .matchNone) :
      OrJoin a b (.bool [] [a, b] [] (some 1))

/-- Two queries that both have to hold are joined in one of the listed ways. -/
theorem andJoin_and (a b : Query) : AndJoin a b (a.and b) := by
  fun_cases Query.and a b with
  | case1 => exact .dropLeft b
  | case2 => exact .dropRight a
  | case3 must should mustNot minimum hleft must' should' mustNot' minimum' _ hright =>
    rw [if_pos hright]
    obtain ⟨hmust, rfl, rfl⟩ := (isConjunction_bool ..).mp hleft
    obtain ⟨hmust', rfl, rfl⟩ := (isConjunction_bool ..).mp hright
    exact .merge _ _ hmust hmust'
  | case4 must should mustNot minimum hleft must' should' mustNot' minimum' hall hright =>
    rw [if_neg hright]
    obtain ⟨hmust, rfl, rfl⟩ := (isConjunction_bool ..).mp hleft
    exact .push _ hmust (Bool.of_not_eq_true hright) hall
  | case5 must should mustNot minimum _ hall hleft hbool =>
    obtain ⟨hmust, rfl, rfl⟩ := (isConjunction_bool ..).mp hleft
    exact .push _ hmust (isConjunction_eq_false hbool) hall
  | case6 must should mustNot minimum _ hall hleft =>
    exact .pair (Bool.of_not_eq_true hleft) ⟨Query.noConfusion, hall⟩
  | case7 _ _ hleft hbool hright =>
    exact .pair (isConjunction_eq_false hbool) ⟨hleft, hright⟩

/-- Two queries of which one has to hold are joined in one of the listed ways. -/
theorem orJoin_or (a b : Query) : OrJoin a b (a.or b) := by
  fun_cases Query.or a b with
  | case1 => exact .dropLeft b
  | case2 => exact .dropRight a
  | case3 must should mustNot minimum hleft must' should' mustNot' minimum' _ hright =>
    rw [if_pos hright]
    obtain ⟨hshould, rfl, rfl⟩ := (isDisjunction_bool ..).mp hleft
    obtain ⟨hshould', rfl, rfl⟩ := (isDisjunction_bool ..).mp hright
    exact .merge _ _ hshould hshould'
  | case4 must should mustNot minimum hleft must' should' mustNot' minimum' hnone hright =>
    rw [if_neg hright]
    obtain ⟨hshould, rfl, rfl⟩ := (isDisjunction_bool ..).mp hleft
    exact .push _ hshould (Bool.of_not_eq_true hright) hnone
  | case5 must should mustNot minimum _ hnone hleft hbool =>
    obtain ⟨hshould, rfl, rfl⟩ := (isDisjunction_bool ..).mp hleft
    exact .push _ hshould (isDisjunction_eq_false hbool) hnone
  | case6 must should mustNot minimum _ hnone hleft =>
    exact .pair (Bool.of_not_eq_true hleft) ⟨Query.noConfusion, hnone⟩
  | case7 _ _ hleft hbool hright =>
    exact .pair (isDisjunction_eq_false hbool) ⟨hleft, hright⟩

end Query

end SearchBridge
