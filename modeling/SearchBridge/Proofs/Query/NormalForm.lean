import SearchBridge.Proofs.Query.Joining

/-!
# The normal form of boolean queries

Joining and negating make boolean queries of three kinds only: a conjunction or a disjunction of at
least two queries, none of them neutral, or the negation of one query. A boolean query of one of
these kinds is in normal form. The joins keep normal form and put no boolean query into their result
that is not in one of the operands, apart from the result itself.

## Main definitions

* `Query.Within` : a query is another one or stands somewhere in it.
* `Query.Kind` : the kinds of boolean queries that joining and negating make.
* `Query.IsNormal` : a query that is of one of these kinds if it is boolean.

## Main results

* `Query.Within.of_and`, `Query.Within.of_or` : what stands in joined queries.
* `Query.IsNormal.and`, `Query.IsNormal.or` : joined queries are in normal form.
* `Query.Kind.eq_of_describes` : a boolean query is of one kind at most.
-/

namespace SearchBridge

namespace Query

/-- The queries that a boolean query is made of, from left to right. -/
def operands : Query → List Query
  | .bool must should mustNot _ => must ++ should ++ mustNot
  | _ => []

/-- A query is another one or stands somewhere in it. -/
inductive Within (p : Query) : Query → Prop
  | self : Within p p
  | operand {q r : Query} (hq : q ∈ r.operands) (h : Within p q) : Within p r

/-- A query that is made of two others and of their operands holds itself and what stands in the two
others. -/
theorem Within.of_operands {p q a b : Query} (h : p.Within q)
    (hq : ∀ c ∈ q.operands, (c = a ∨ c ∈ a.operands) ∨ c = b ∨ c ∈ b.operands) :
    p = q ∨ p.Within a ∨ p.Within b := by
  cases h with
  | self => exact Or.inl rfl
  | operand hc h =>
    rcases hq _ hc with (rfl | hc) | rfl | hc
    · exact Or.inr (Or.inl h)
    · exact Or.inr (Or.inl (.operand hc h))
    · exact Or.inr (Or.inr h)
    · exact Or.inr (Or.inr (.operand hc h))

/-- Joined queries that both have to hold are made of them and of their operands. -/
theorem mem_operands_and {a b c : Query} (h : c ∈ (a.and b).operands) :
    (c = a ∨ c ∈ a.operands) ∨ c = b ∨ c ∈ b.operands := by
  generalize hq : a.and b = q at h
  have hjoin : AndJoin a b q := hq ▸ andJoin_and a b
  cases hjoin with
  | dropLeft => exact Or.inr (Or.inr h)
  | dropRight => exact Or.inl (Or.inr h)
  | merge | push | pair =>
    simp only [operands, List.append_nil, List.mem_append, List.mem_cons, List.not_mem_nil,
      or_false] at h ⊢
    grind

/-- Joined queries of which one has to hold are made of them and of their operands. -/
theorem mem_operands_or {a b c : Query} (h : c ∈ (a.or b).operands) :
    (c = a ∨ c ∈ a.operands) ∨ c = b ∨ c ∈ b.operands := by
  generalize hq : a.or b = q at h
  have hjoin : OrJoin a b q := hq ▸ orJoin_or a b
  cases hjoin with
  | dropLeft => exact Or.inr (Or.inr h)
  | dropRight => exact Or.inl (Or.inr h)
  | merge | push | pair =>
    simp only [operands, List.append_nil, List.nil_append, List.mem_append, List.mem_cons,
      List.not_mem_nil, or_false] at h ⊢
    grind

/-- What stands in joined queries that both have to hold. -/
theorem Within.of_and {p a b : Query} (h : p.Within (a.and b)) :
    p = a.and b ∨ p.Within a ∨ p.Within b := h.of_operands fun _ => mem_operands_and

/-- What stands in joined queries of which one has to hold. -/
theorem Within.of_or {p a b : Query} (h : p.Within (a.or b)) :
    p = a.or b ∨ p.Within a ∨ p.Within b := h.of_operands fun _ => mem_operands_or

/-- What stands in a negation. -/
theorem Within.of_negate {p a : Query} (h : p.Within a.negate) : p = a.negate ∨ p.Within a := by
  refine (h.of_operands fun c hc => ?_).imp_right (or_self_iff.mp ·)
  exact Or.inl (Or.inl (List.mem_singleton.mp hc))

/-! ### Kinds of boolean queries -/

/-- The kinds of boolean queries that joining and negating make. -/
inductive Kind where
  | conjunction
  | disjunction
  | negation

/-- The parts of a boolean query of a kind: at least two queries that all have to hold, without
minimum, none of which is the query of all documents; at least two queries of which one has to hold,
none of which is the query of no document; or one excluded query, without minimum. -/
def Kind.Describes (must should mustNot : List Query) (minimum : Option UInt32) : Kind → Prop
  | .conjunction =>
    2 ≤ must.length ∧ matchAll ∉ must ∧ should = [] ∧ mustNot = [] ∧ minimum = none
  | .disjunction =>
    2 ≤ should.length ∧ matchNone ∉ should ∧ must = [] ∧ mustNot = [] ∧ minimum = some 1
  | .negation => mustNot.length = 1 ∧ must = [] ∧ should = [] ∧ minimum = none

/-- A boolean query is of one kind at most. -/
theorem Kind.eq_of_describes {must should mustNot : List Query} {minimum : Option UInt32}
    {k k' : Kind} (h : k.Describes must should mustNot minimum)
    (h' : k'.Describes must should mustNot minimum) : k = k' := by
  cases k <;> cases k' <;> simp_all [Kind.Describes]

/-- A conjunction stays one when queries are added that are not the query of all documents. -/
theorem Kind.describes_conjunction_append {must qs : List Query} {minimum : Option UInt32}
    (h : Kind.conjunction.Describes must [] [] minimum) (hqs : matchAll ∉ qs) :
    Kind.conjunction.Describes (must ++ qs) [] [] minimum := by
  obtain ⟨hlength, hmust, _, _, hminimum⟩ := h
  refine ⟨?_, ?_, rfl, rfl, hminimum⟩
  · rw [List.length_append]
    omega
  · rw [List.mem_append]
    exact not_or.mpr ⟨hmust, hqs⟩

/-- A disjunction stays one when queries are added that are not the query of no document. -/
theorem Kind.describes_disjunction_append {should qs : List Query} {minimum : Option UInt32}
    (h : Kind.disjunction.Describes [] should [] minimum) (hqs : matchNone ∉ qs) :
    Kind.disjunction.Describes [] (should ++ qs) [] minimum := by
  obtain ⟨hlength, hshould, _, _, hminimum⟩ := h
  refine ⟨?_, ?_, rfl, rfl, hminimum⟩
  · rw [List.length_append]
    omega
  · rw [List.mem_append]
    exact not_or.mpr ⟨hshould, hqs⟩

/-- A query is in normal form if it is not boolean or of one of the kinds. -/
def IsNormal : Query → Prop
  | .bool must should mustNot minimum => ∃ k : Kind, k.Describes must should mustNot minimum
  | _ => True

/-- A query that is a conjunction in normal form is of that kind. -/
theorem IsNormal.describes_conjunction {must : List Query} {minimum : Option UInt32}
    (h : (Query.bool must [] [] minimum).IsNormal) :
    Kind.conjunction.Describes must [] [] minimum := by
  obtain ⟨k, hk⟩ := h
  cases k with
  | conjunction => exact hk
  | disjunction => exact absurd hk.1 (by simp)
  | negation => exact absurd hk.1 (by simp)

/-- A query that is a disjunction in normal form is of that kind. -/
theorem IsNormal.describes_disjunction {should : List Query} {minimum : Option UInt32}
    (h : (Query.bool [] should [] minimum).IsNormal) :
    Kind.disjunction.Describes [] should [] minimum := by
  obtain ⟨k, hk⟩ := h
  cases k with
  | conjunction => exact absurd hk.1 (by simp)
  | disjunction => exact hk
  | negation => exact absurd hk.1 (by simp)

/-- Two queries in normal form that both have to hold are joined to one in normal form. -/
theorem IsNormal.and {a b : Query} (ha : a.IsNormal) (hb : b.IsNormal) : (a.and b).IsNormal := by
  generalize hq : a.and b = q
  have hjoin : AndJoin a b q := hq ▸ andJoin_and a b
  cases hjoin with
  | dropLeft => exact hb
  | dropRight => exact ha
  | merge =>
    obtain ⟨_, hright, _⟩ := hb.describes_conjunction
    exact ⟨.conjunction, Kind.describes_conjunction_append ha.describes_conjunction hright⟩
  | push minimum hleft hright hall =>
    have hnew : matchAll ∉ [b] := fun hmem => hall (List.mem_singleton.mp hmem).symm
    exact ⟨.conjunction, Kind.describes_conjunction_append ha.describes_conjunction hnew⟩
  | pair hleft halls =>
    refine ⟨.conjunction, Nat.le_refl 2, fun hmem => ?_, rfl, rfl, rfl⟩
    rcases List.mem_cons.mp hmem with h | h
    · exact halls.1 h.symm
    · exact halls.2 (List.mem_singleton.mp h).symm

/-- Two queries in normal form of which one has to hold are joined to one in normal form. -/
theorem IsNormal.or {a b : Query} (ha : a.IsNormal) (hb : b.IsNormal) : (a.or b).IsNormal := by
  generalize hq : a.or b = q
  have hjoin : OrJoin a b q := hq ▸ orJoin_or a b
  cases hjoin with
  | dropLeft => exact hb
  | dropRight => exact ha
  | merge =>
    obtain ⟨_, hright, _⟩ := hb.describes_disjunction
    exact ⟨.disjunction, Kind.describes_disjunction_append ha.describes_disjunction hright⟩
  | push minimum hleft hright hnone =>
    have hnew : matchNone ∉ [b] := fun hmem => hnone (List.mem_singleton.mp hmem).symm
    exact ⟨.disjunction, Kind.describes_disjunction_append ha.describes_disjunction hnew⟩
  | pair hleft hnones =>
    refine ⟨.disjunction, Nat.le_refl 2, fun hmem => ?_, rfl, rfl, rfl⟩
    rcases List.mem_cons.mp hmem with h | h
    · exact hnones.1 h.symm
    · exact hnones.2 (List.mem_singleton.mp h).symm

theorem isNormal_negate (q : Query) : q.negate.IsNormal := ⟨.negation, rfl, rfl, rfl, rfl⟩

end Query

end SearchBridge
