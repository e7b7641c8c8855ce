import Mathlib.Tactic.ByContra
import SearchBridge.Proofs.Query.NormalForm

/-!
# Flat queries

A query is flat if no conjunction directly holds a conjunction and no disjunction a disjunction. The
joins merge an operand of their own kind into the one on its left, but put a pair around an operand
of their own kind when the one on its left is not of it. So joining queries one after the other is
flat exactly if, of the operands that are not neutral, the second is of the join's kind only if the
first is.

Both joins are treated at once: a connective is one of them, with its neutral query and the boolean
queries of its kind.

## Main definitions

* `Query.Connective` : the two joins.
* `Query.Shape` : what a join looks at in an operand.
* `Query.IsFlat` : no query directly holds one of its own kind.
* `Query.Connective.Joined` : what joining a list of queries makes.
* `Query.Shape.groupsLeft` : of some operands, the second is of the join's kind only if the first
  is.

## Main results

* `Query.Connective.joined_foldl` : what joining the queries of a list one after the other makes.
* `Query.Connective.isFlat_foldl_iff` : when this is flat.
* `Query.Connective.parts_foldl` : if it is flat, it has the parts of its operands in their order.
* `Query.IsNormal.eq_of_parts_eq` : a query in normal form is determined by its parts.
-/

namespace SearchBridge

namespace Query

/-- The two ways to join queries. -/
inductive Connective where
  | and
  | or
  deriving DecidableEq

/-- What a join looks at in an operand: whether it is neutral or of the kind that a join makes. -/
inductive Shape where
  | neutral (connective : Connective)
  | joined (connective : Connective)
  | other
  deriving DecidableEq

/-- The shape of a query. -/
def shape : Query → Shape
  | .matchAll => .neutral .and
  | .matchNone => .neutral .or
  | .clause _ => .other
  | .bool must should mustNot minimum =>
    if (Query.bool must should mustNot minimum).isConjunction then .joined .and
    else if (Query.bool must should mustNot minimum).isDisjunction then .joined .or
    else .other

/-- No conjunction in the query directly holds a conjunction, and no disjunction a disjunction. -/
structure IsFlat (q : Query) : Prop where
  conjunction : ∀ p : Query, p.Within q → p.isConjunction → ∀ o ∈ p.operands, ¬o.isConjunction
  disjunction : ∀ p : Query, p.Within q → p.isDisjunction → ∀ o ∈ p.operands, ¬o.isDisjunction

namespace Connective

/-- The query that a join drops. -/
def neutral : Connective → Query
  | .and => .matchAll
  | .or => .matchNone

/-- The join of two queries. -/
def join : Connective → Query → Query → Query
  | .and => Query.and
  | .or => Query.or

variable (c : Connective)

/-- What a query adds to a boolean query of the join's kind when it is merged: its operands if it is
of that kind, and itself otherwise. -/
def members (q : Query) : List Query := if q.shape = .joined c then q.operands else [q]

/-- What a query adds to a boolean query of the join's kind, nothing if it is dropped. -/
def parts (q : Query) : List Query := if q.shape = .neutral c then [] else c.members q

end Connective

/-! ### Shapes -/

theorem shape_eq_joined_and_iff {q : Query} : q.shape = .joined .and ↔ q.isConjunction := by
  cases q with
  | matchAll | matchNone | clause => exact iff_of_false Shape.noConfusion Bool.false_ne_true
  | bool must should mustNot minimum =>
    rw [shape]
    split
    · next h => exact iff_of_true rfl h
    · next h =>
      refine iff_of_false ?_ h
      split <;> simp

theorem shape_eq_joined_or_iff {q : Query} : q.shape = .joined .or ↔ q.isDisjunction := by
  cases q with
  | matchAll | matchNone | clause => exact iff_of_false Shape.noConfusion Bool.false_ne_true
  | bool must should mustNot minimum =>
    rw [shape]
    split
    · next h =>
      refine iff_of_false (by simp) ?_
      rw [isConjunction_bool] at h
      simp [h]
    · next h =>
      split
      · next h => exact iff_of_true rfl h
      · next h => exact iff_of_false Shape.noConfusion h

theorem shape_ne_joined_and_iff {q : Query} :
    q.shape ≠ .joined .and ↔ q.isConjunction = false := by
  rw [Ne, shape_eq_joined_and_iff, Bool.not_eq_true]

theorem shape_ne_joined_or_iff {q : Query} : q.shape ≠ .joined .or ↔ q.isDisjunction = false := by
  rw [Ne, shape_eq_joined_or_iff, Bool.not_eq_true]

theorem shape_eq_neutral_iff {q : Query} {c : Connective} :
    q.shape = .neutral c ↔ q = c.neutral := by
  cases q with
  | matchAll | matchNone | clause => cases c <;> simp [shape, Connective.neutral]
  | bool must should mustNot minimum =>
    refine iff_of_false ?_ (by cases c <;> exact Query.noConfusion)
    rw [shape]
    split
    · exact Shape.noConfusion
    · split <;> exact Shape.noConfusion

/-- Flatness for both connectives at once. -/
theorem isFlat_iff {q : Query} : q.IsFlat ↔ ∀ p : Query, p.Within q → ∀ c, p.shape = .joined c →
    ∀ o ∈ p.operands, o.shape ≠ .joined c := by
  constructor
  · intro h p hp c hc o ho heq
    cases c with
    | and =>
      rw [shape_eq_joined_and_iff] at hc heq
      exact h.conjunction p hp hc o ho heq
    | or =>
      rw [shape_eq_joined_or_iff] at hc heq
      exact h.disjunction p hp hc o ho heq
  · intro h
    refine ⟨fun p hp hc o ho heq => ?_, fun p hp hc o ho heq => ?_⟩
    · rw [← shape_eq_joined_and_iff] at hc heq
      exact h p hp .and hc o ho heq
    · rw [← shape_eq_joined_or_iff] at hc heq
      exact h p hp .or hc o ho heq

/-- A query is flat if it holds none of its own kind directly and its operands are flat. -/
theorem isFlat_iff_operands {q : Query} : q.IsFlat ↔
    (∀ c, q.shape = .joined c → ∀ o ∈ q.operands, o.shape ≠ .joined c) ∧
      ∀ o ∈ q.operands, o.IsFlat := by
  simp only [isFlat_iff]
  constructor
  · exact fun h => ⟨h q .self, fun o ho p hp => h p (.operand ho hp)⟩
  · rintro ⟨hself, hoperands⟩ p hp
    cases hp with
    | self => exact hself
    | operand ho hp => exact hoperands _ ho p hp

/-- A query without operands is flat. -/
theorem isFlat_of_operands_eq_nil {q : Query} (h : q.operands = []) : q.IsFlat := by
  rw [isFlat_iff_operands, h]
  exact ⟨fun _ _ _ ho => absurd ho List.not_mem_nil, fun _ ho => absurd ho List.not_mem_nil⟩

/-- A negation is flat if what it excludes is. -/
theorem isFlat_negate_iff {q : Query} : q.negate.IsFlat ↔ q.IsFlat := by
  rw [isFlat_iff_operands]
  constructor
  · exact fun h => h.2 q (List.mem_singleton_self q)
  · intro h
    refine ⟨fun c hc => ?_, List.forall_mem_singleton.mpr h⟩
    cases c <;> cases hc

namespace Connective

variable {c : Connective} {p q r : Query}

theorem isFlat_neutral : c.neutral.IsFlat := isFlat_of_operands_eq_nil (by cases c <;> rfl)

theorem members_of_joined (h : q.shape = .joined c) : c.members q = q.operands := if_pos h

theorem members_of_not_joined (h : q.shape ≠ .joined c) : c.members q = [q] := if_neg h

/-- A query of a join's kind is flat if its operands are and none of them is of that kind. -/
theorem isFlat_iff_of_joined (h : q.shape = .joined c) :
    q.IsFlat ↔ ∀ o ∈ q.operands, o.IsFlat ∧ o.shape ≠ .joined c := by
  rw [isFlat_iff_operands]
  constructor
  · exact fun hflat o ho => ⟨hflat.2 o ho, hflat.1 c h o ho⟩
  · intro hoperands
    refine ⟨fun d hd o ho => ?_, fun o ho => (hoperands o ho).1⟩
    rw [h] at hd
    cases hd
    exact (hoperands o ho).2

/-- A query is flat if what it adds to a merged query is, apart from queries of that kind. -/
theorem forall_mem_members_iff :
    (∀ o ∈ c.members q, o.IsFlat ∧ o.shape ≠ .joined c) ↔ q.IsFlat := by
  by_cases h : q.shape = .joined c
  · rw [members_of_joined h, isFlat_iff_of_joined h]
  · rw [members_of_not_joined h, List.forall_mem_singleton]
    exact and_iff_left h

/-! ### Joining two queries -/

theorem shape_conjunction {must : List Query} (h : must ≠ []) (minimum : Option UInt32) :
    (Query.bool must [] [] minimum).shape = .joined .and :=
  shape_eq_joined_and_iff.mpr (isConjunction_of_ne_nil h minimum)

theorem shape_disjunction {should : List Query} (h : should ≠ []) (minimum : Option UInt32) :
    (Query.bool [] should [] minimum).shape = .joined .or :=
  shape_eq_joined_or_iff.mpr (isDisjunction_of_ne_nil h minimum)

theorem neutral_join (q : Query) : c.join c.neutral q = q := by
  cases c with
  | and => rw [join, neutral, Query.and]
  | or => rw [join, neutral, Query.or]

theorem join_neutral (q : Query) : c.join q c.neutral = q := by
  cases c with
  | and => cases q <;> rfl
  | or => cases q <;> rfl

theorem shape_ne_neutral_of_joined (h : q.shape = .joined c) : q.shape ≠ .neutral c := by
  rw [h]
  exact Shape.noConfusion

/-- Two queries that are not neutral are joined to one of the join's kind. The right one is merged
only if the left one is of that kind. -/
theorem shape_operands_join (hp : p.shape ≠ .neutral c) (hq : q.shape ≠ .neutral c) :
    (c.join p q).shape = .joined c ∧ (c.join p q).operands =
      c.members p ++ if p.shape = .joined c then c.members q else [q] := by
  cases c with
  | and =>
    generalize hr : Connective.and.join p q = r
    have hjoin : AndJoin p q r := hr ▸ andJoin_and p q
    cases hjoin with
    | dropLeft | dropRight => contradiction
    | merge minimum minimum' hleft hright =>
      have hshape := shape_conjunction hleft minimum
      refine ⟨shape_conjunction (List.append_ne_nil_of_left_ne_nil hleft _) _, ?_⟩
      rw [if_pos hshape, members_of_joined hshape,
        members_of_joined (shape_conjunction hright minimum')]
      simp [operands]
    | push minimum hleft hright hall =>
      have hshape := shape_conjunction hleft minimum
      have hnot : q.shape ≠ .joined .and := shape_ne_joined_and_iff.mpr hright
      refine ⟨shape_conjunction (List.append_ne_nil_of_left_ne_nil hleft _) _, ?_⟩
      rw [if_pos hshape, members_of_joined hshape, members_of_not_joined hnot]
      simp [operands]
    | pair hleft halls =>
      have hnot : p.shape ≠ .joined .and := shape_ne_joined_and_iff.mpr hleft
      refine ⟨shape_conjunction (List.cons_ne_nil _ _) _, ?_⟩
      rw [if_neg hnot, members_of_not_joined hnot]
      rfl
  | or =>
    generalize hr : Connective.or.join p q = r
    have hjoin : OrJoin p q r := hr ▸ orJoin_or p q
    cases hjoin with
    | dropLeft | dropRight => contradiction
    | merge minimum minimum' hleft hright =>
      have hshape := shape_disjunction hleft minimum
      refine ⟨shape_disjunction (List.append_ne_nil_of_left_ne_nil hleft _) _, ?_⟩
      rw [if_pos hshape, members_of_joined hshape,
        members_of_joined (shape_disjunction hright minimum')]
      simp [operands]
    | push minimum hleft hright hnone =>
      have hshape := shape_disjunction hleft minimum
      have hnot : q.shape ≠ .joined .or := shape_ne_joined_or_iff.mpr hright
      refine ⟨shape_disjunction (List.append_ne_nil_of_left_ne_nil hleft _) _, ?_⟩
      rw [if_pos hshape, members_of_joined hshape, members_of_not_joined hnot]
      simp [operands]
    | pair hleft hnones =>
      have hnot : p.shape ≠ .joined .or := shape_ne_joined_or_iff.mpr hleft
      refine ⟨shape_disjunction (List.cons_ne_nil _ _) _, ?_⟩
      rw [if_neg hnot, members_of_not_joined hnot]
      rfl

/-! ### Joining a list of queries -/

/-- A query of the join's kind takes in what each further query adds. -/
theorem shape_operands_foldl (hp : p.shape = .joined c) {qs : List Query}
    (hqs : ∀ q ∈ qs, q.shape ≠ .neutral c) : (qs.foldl c.join p).shape = .joined c ∧
      (qs.foldl c.join p).operands = p.operands ++ qs.flatMap c.members := by
  induction qs generalizing p with
  | nil => exact ⟨hp, (List.append_nil _).symm⟩
  | cons q qs ih =>
    obtain ⟨hq, hqs⟩ := List.forall_mem_cons.mp hqs
    obtain ⟨hshape, hoperands⟩ := shape_operands_join (shape_ne_neutral_of_joined hp) hq
    rw [if_pos hp, members_of_joined hp] at hoperands
    obtain ⟨hshape', hoperands'⟩ := ih hshape hqs
    refine ⟨hshape', ?_⟩
    rw [List.foldl_cons, hoperands', hoperands, List.flatMap_cons, List.append_assoc]

/-- What the queries that are not neutral are joined to: the neutral query if there are none, and
the only one if there is one. Otherwise all but the first two are merged, and the second is if the
first is of the join's kind. -/
inductive Joined (c : Connective) : List Query → Query → Prop
  | none : Joined c [] c.neutral
  | one (p : Query) : Joined c [p] p
  | more {p q r : Query} {rest : List Query} (hshape : r.shape = .joined c)
      (hoperands : r.operands = c.members p ++
        (if p.shape = .joined c then c.members q else [q]) ++ rest.flatMap c.members) :
      Joined c (p :: q :: rest) r

variable (c) in
/-- The queries of a list that are not neutral. -/
def kept (qs : List Query) : List Query := qs.filter fun q => q.shape ≠ .neutral c

theorem shape_ne_neutral_of_mem_kept {qs : List Query} (h : q ∈ c.kept qs) :
    q.shape ≠ .neutral c := of_decide_eq_true (List.mem_filter.mp h).2

theorem foldl_kept (p : Query) (qs : List Query) :
    (c.kept qs).foldl c.join p = qs.foldl c.join p := by
  induction qs generalizing p with
  | nil => rfl
  | cons q qs ih =>
    rw [kept, List.foldl_cons]
    by_cases hq : q.shape = .neutral c
    · rw [List.filter_cons_of_neg (by simp [hq]), ← kept, ih, shape_eq_neutral_iff.mp hq,
        join_neutral]
    · rw [List.filter_cons_of_pos (by simp [hq]), List.foldl_cons, ← kept, ih]

/-- Joining queries one after the other. -/
theorem joined_foldl (qs : List Query) : c.Joined (c.kept qs) (qs.foldl c.join c.neutral) := by
  rw [← foldl_kept]
  have hkept : ∀ q ∈ c.kept qs, q.shape ≠ .neutral c := fun _ => shape_ne_neutral_of_mem_kept
  generalize c.kept qs = ps at hkept ⊢
  match ps with
  | [] => exact .none
  | [p] =>
    rw [List.foldl_cons, neutral_join]
    exact .one p
  | p :: q :: rest =>
    rw [List.forall_mem_cons, List.forall_mem_cons] at hkept
    obtain ⟨hp, hq, hrest⟩ := hkept
    obtain ⟨hshape, hoperands⟩ := shape_operands_join hp hq
    obtain ⟨hshape', hoperands'⟩ := shape_operands_foldl hshape hrest
    rw [List.foldl_cons, neutral_join, List.foldl_cons]
    exact .more hshape' (hoperands'.trans (by rw [hoperands]))

end Connective

/-- The shape of joined queries. -/
def Shape.ofOperands (c : Connective) (shapes : List Shape) : Shape :=
  match shapes.filter (· ≠ .neutral c) with
  | [] => .neutral c
  | [s] => s
  | _ => .joined c

/-- Of the operands that are not neutral, the second is of the join's kind only if the first is. -/
def Shape.groupsLeft (c : Connective) (shapes : List Shape) : Bool :=
  match shapes.filter (· ≠ .neutral c) with
  | s :: t :: _ => t ≠ .joined c || s = .joined c
  | _ => true

namespace Connective

variable {c : Connective} {p q r : Query} {qs : List Query}

theorem filter_map_shape (qs : List Query) :
    (qs.map shape).filter (· ≠ .neutral c) = (c.kept qs).map shape := List.filter_map

/-- The shapes of queries tell the shape of what they are joined to. -/
theorem shape_foldl (qs : List Query) :
    (qs.foldl c.join c.neutral).shape = .ofOperands c (qs.map shape) := by
  have hjoined := c.joined_foldl qs
  rw [Shape.ofOperands, filter_map_shape]
  generalize c.kept qs = ps at hjoined ⊢
  generalize qs.foldl c.join c.neutral = r at hjoined ⊢
  cases hjoined with
  | none => exact shape_eq_neutral_iff.mpr rfl
  | one => rfl
  | more hshape => exact hshape

/-- What follows the first operand is flat if the second is, and is merged if it has to be. -/
theorem forall_mem_second_iff :
    (∀ o ∈ if p.shape = .joined c then c.members q else [q], o.IsFlat ∧ o.shape ≠ .joined c) ↔
      q.IsFlat ∧ (q.shape = .joined c → p.shape = .joined c) := by
  by_cases hp : p.shape = .joined c
  · rw [if_pos hp, forall_mem_members_iff]
    exact (and_iff_left fun _ => hp).symm
  · rw [if_neg hp, List.forall_mem_singleton]
    exact and_congr_right fun _ => (imp_iff_not hp).symm

/-- **Joining is flat** exactly if the operands are flat and grouped to the left. -/
theorem isFlat_foldl_iff (qs : List Query) : (qs.foldl c.join c.neutral).IsFlat ↔
    (∀ q ∈ qs, q.IsFlat) ∧ Shape.groupsLeft c (qs.map shape) := by
  have hkept : (∀ q ∈ qs, q.IsFlat) ↔ ∀ q ∈ c.kept qs, q.IsFlat := by
    refine ⟨fun h q hq => h q (List.mem_filter.mp hq).1, fun h q hq => ?_⟩
    by_cases hneutral : q.shape = .neutral c
    · rw [shape_eq_neutral_iff.mp hneutral]
      exact isFlat_neutral
    · exact h q (List.mem_filter.mpr ⟨hq, decide_eq_true hneutral⟩)
  have hjoined := c.joined_foldl qs
  rw [hkept, Shape.groupsLeft, filter_map_shape]
  generalize c.kept qs = ps at hjoined ⊢
  generalize qs.foldl c.join c.neutral = r at hjoined ⊢
  cases hjoined with
  | none => simp [isFlat_neutral]
  | one => simp
  | @more p q r rest hshape hoperands =>
    have hrest : (∀ o ∈ rest.flatMap c.members, o.IsFlat ∧ o.shape ≠ .joined c) ↔
        ∀ q ∈ rest, q.IsFlat := by
      rw [List.forall_mem_flatMap]
      simp only [forall_mem_members_iff]
    have hsecond : (decide (q.shape ≠ .joined c) || decide (p.shape = .joined c)) = true ↔
        (q.shape = .joined c → p.shape = .joined c) := by
      rw [Bool.or_eq_true, decide_eq_true_iff, decide_eq_true_iff,
        Decidable.imp_iff_not_or]
    rw [isFlat_iff_of_joined hshape, hoperands, List.forall_mem_append, List.forall_mem_append,
      forall_mem_members_iff, forall_mem_second_iff, hrest, List.forall_mem_cons,
      List.forall_mem_cons]
    constructor
    · rintro ⟨⟨hp, hq, hgroups⟩, hrest⟩
      exact ⟨⟨hp, hq, hrest⟩, hsecond.mpr hgroups⟩
    · rintro ⟨⟨hp, hq, hrest⟩, hgroups⟩
      exact ⟨⟨hp, hq, hsecond.mp hgroups⟩, hrest⟩

/-! ### The parts of a query -/

theorem parts_of_neutral (h : q.shape = .neutral c) : c.parts q = [] := if_pos h

theorem parts_of_not_neutral (h : q.shape ≠ .neutral c) : c.parts q = c.members q := if_neg h

/-- Neutral queries add nothing. -/
theorem flatMap_parts (qs : List Query) : qs.flatMap c.parts = (c.kept qs).flatMap c.members := by
  induction qs with
  | nil => rfl
  | cons q qs ih =>
    rw [kept, List.flatMap_cons, ih]
    by_cases hq : q.shape = .neutral c
    · rw [List.filter_cons_of_neg (by simp [hq]), parts_of_neutral hq]
      rfl
    · rw [List.filter_cons_of_pos (by simp [hq]), List.flatMap_cons, parts_of_not_neutral hq]
      rfl

/-- If joining queries is flat, it makes a query of their parts in order. -/
theorem parts_foldl (h : Shape.groupsLeft c (qs.map shape)) :
    c.parts (qs.foldl c.join c.neutral) = qs.flatMap c.parts := by
  have hjoined := c.joined_foldl qs
  have hkept : ∀ q ∈ c.kept qs, q.shape ≠ .neutral c := fun _ => shape_ne_neutral_of_mem_kept
  rw [Shape.groupsLeft, filter_map_shape] at h
  rw [flatMap_parts]
  generalize c.kept qs = ps at hjoined hkept h ⊢
  generalize qs.foldl c.join c.neutral = r at hjoined ⊢
  cases hjoined with
  | none => exact parts_of_neutral (shape_eq_neutral_iff.mpr rfl)
  | one =>
    rw [parts_of_not_neutral (hkept r (List.mem_singleton_self r)), List.flatMap_singleton]
  | @more p q r rest hshape hoperands =>
    have hsecond : (if p.shape = .joined c then c.members q else [q]) = c.members q := by
      split
      · rfl
      · next hp =>
        have hq : q.shape ≠ .joined c := by simpa [hp] using h
        exact (members_of_not_joined hq).symm
    rw [parts_of_not_neutral (shape_ne_neutral_of_joined hshape), members_of_joined hshape,
      hoperands, hsecond, List.flatMap_cons, List.flatMap_cons, List.append_assoc]

end Connective

/-- The boolean query of a join's kind. -/
def Connective.query : Connective → List Query → Query
  | .and, qs => .bool qs [] [] none
  | .or, qs => .bool [] qs [] (some 1)

theorem Connective.operands_query (c : Connective) (qs : List Query) :
    (c.query qs).operands = qs := by
  cases c <;> simp [query, operands]

namespace IsNormal

variable {c : Connective} {p q : Query}

/-- A query in normal form that is of a join's kind has at least two operands and nothing else. -/
theorem eq_query (hq : q.IsNormal) (h : q.shape = .joined c) :
    2 ≤ q.operands.length ∧ q = c.query q.operands := by
  cases q with
  | matchAll | matchNone | clause => cases h
  | bool must should mustNot minimum =>
    cases c with
    | and =>
      obtain ⟨-, rfl, rfl⟩ := (isConjunction_bool ..).mp (shape_eq_joined_and_iff.mp h)
      obtain ⟨hlength, -, -, -, rfl⟩ := hq.describes_conjunction
      rw [show (Query.bool must [] [] none) = Connective.and.query must from rfl,
        Connective.operands_query]
      exact ⟨hlength, rfl⟩
    | or =>
      obtain ⟨-, rfl, rfl⟩ := (isDisjunction_bool ..).mp (shape_eq_joined_or_iff.mp h)
      obtain ⟨hlength, -, -, -, rfl⟩ := hq.describes_disjunction
      rw [show (Query.bool [] should [] (some 1)) = Connective.or.query should from rfl,
        Connective.operands_query]
      exact ⟨hlength, rfl⟩

/-- Only a neutral query in normal form has no parts. -/
theorem parts_eq_nil_iff (hq : q.IsNormal) : c.parts q = [] ↔ q.shape = .neutral c := by
  refine ⟨fun h => ?_, Connective.parts_of_neutral⟩
  by_contra hneutral
  rw [Connective.parts_of_not_neutral hneutral] at h
  by_cases hjoined : q.shape = .joined c
  · have hlength := (hq.eq_query hjoined).1
    rw [← Connective.members_of_joined hjoined, h] at hlength
    exact absurd hlength (by decide)
  · rw [Connective.members_of_not_joined hjoined] at h
    exact absurd h (List.cons_ne_nil _ _)

/-- Only a query of the join's kind has more than one part. -/
theorem shape_eq_joined_of_members_eq (hp : p.IsNormal) (hjoined : p.shape = .joined c)
    (h : c.members p = c.members q) : q.shape = .joined c := by
  by_contra hnot
  have hlength := (hp.eq_query hjoined).1
  rw [← Connective.members_of_joined hjoined, h, Connective.members_of_not_joined hnot] at hlength
  exact absurd hlength (by simp)

/-- **A query in normal form is determined by its parts.** -/
theorem eq_of_parts_eq (hp : p.IsNormal) (hq : q.IsNormal) (h : c.parts p = c.parts q) :
    p = q := by
  by_cases hneutral : p.shape = .neutral c
  · have hneutral' := hq.parts_eq_nil_iff.mp (h ▸ Connective.parts_of_neutral hneutral)
    rw [shape_eq_neutral_iff.mp hneutral, shape_eq_neutral_iff.mp hneutral']
  have hneutral' : q.shape ≠ .neutral c := fun heq =>
    hneutral (hp.parts_eq_nil_iff.mp (h.trans (Connective.parts_of_neutral heq)))
  rw [Connective.parts_of_not_neutral hneutral, Connective.parts_of_not_neutral hneutral'] at h
  by_cases hjoined : p.shape = .joined c
  · have hjoined' := hp.shape_eq_joined_of_members_eq hjoined h
    rw [Connective.members_of_joined hjoined, Connective.members_of_joined hjoined'] at h
    rw [(hp.eq_query hjoined).2, (hq.eq_query hjoined').2, h]
  · have hjoined' : q.shape ≠ .joined c := fun heq =>
      hjoined (hq.shape_eq_joined_of_members_eq heq h.symm)
    rw [Connective.members_of_not_joined hjoined, Connective.members_of_not_joined hjoined'] at h
    exact List.singleton_inj.mp h

end IsNormal

end Query

end SearchBridge
