import Mathlib.Logic.ExistsUnique
import SearchBridge.Proofs.Filter.Lowering
import SearchBridge.Proofs.Query.NormalForm

/-!
# Lowered filters are in normal form

A property that lowering cannot leave holds not only of a lowered query but of every query that
stands in it, since joining and negating put nothing new into their result apart from the result
itself. Normal form is such a property. So no boolean query in a lowered filter is empty or mixes
queries that have to hold with optional or excluded ones.

## Main results

* `Query.JoinClosed.everywhere` : properties of everything that stands in a query.
* `Filter.lower?_boolean_kinds` : the boolean queries in a lowered filter are of one kind each.
-/

namespace SearchBridge

namespace Query

/-- Only the query itself stands in one without operands. -/
theorem Within.eq_of_operands_eq_nil {p q : Query} (h : p.Within q) (hq : q.operands = []) :
    p = q := by
  cases h with
  | self => rfl
  | operand hc => exact absurd (hq ▸ hc) List.not_mem_nil

/-- If lowering cannot leave a property, it cannot leave the property of everything that stands in a
query. -/
theorem JoinClosed.everywhere {P : Query → Prop} (h : JoinClosed P) :
    JoinClosed fun q => ∀ p, p.Within q → P p where
  clause c p hp := hp.eq_of_operands_eq_nil rfl ▸ h.clause c
  matchAll p hp := hp.eq_of_operands_eq_nil rfl ▸ h.matchAll
  matchNone p hp := hp.eq_of_operands_eq_nil rfl ▸ h.matchNone
  and ha hb p hp := by
    rcases hp.of_and with rfl | hp | hp
    · exact h.and (ha _ .self) (hb _ .self)
    · exact ha p hp
    · exact hb p hp
  or ha hb p hp := by
    rcases hp.of_or with rfl | hp | hp
    · exact h.or (ha _ .self) (hb _ .self)
    · exact ha p hp
    · exact hb p hp
  negate ha p hp := by
    rcases hp.of_negate with rfl | hp
    · exact h.negate (ha _ .self)
    · exact ha p hp

/-- Lowering cannot leave normal form. -/
theorem joinClosed_isNormal : JoinClosed IsNormal where
  clause _ := trivial
  matchAll := trivial
  matchNone := trivial
  and := IsNormal.and
  or := IsNormal.or
  negate _ := isNormal_negate _

end Query

namespace Filter

/-- **Lowered filters are in normal form.** Every boolean query in a lowered filter is of exactly
one kind: a conjunction of at least two queries without minimum, none of them the query of all
documents; a disjunction of at least two queries with the minimum one, none of them the query of no
document; or the negation of one query without minimum. -/
theorem lower?_boolean_kinds (catalog : Catalog) (f : Filter) :
    ∀ q ∈ f.lower? catalog, ∀ must should mustNot minimum,
      (Query.bool must should mustNot minimum).Within q →
        ∃! k : Query.Kind, k.Describes must should mustNot minimum := by
  intro q hq must should mustNot minimum hwithin
  obtain ⟨k, hk⟩ := Query.joinClosed_isNormal.everywhere.lower? catalog f q hq _ hwithin
  exact ⟨k, hk, fun k' hk' => Query.Kind.eq_of_describes hk' hk⟩

/-- The lowered filter is a negation. The disjunction in it has taken in the two intervals of a
range and the negated conjunction, from which the query of all documents has dropped out. -/
theorem lower?_boolean_kinds_of_merged_operands :
    let f : Filter := .not (some (.or [.range "size" [{ lower := some "2" }, { upper := some "5" }],
      .not (some (.and [.and [], .ids ["1"], .wildcard "sku" "a*"]))]))
    let should : List Query := [.clause (.range "size" { gt := some "2" }),
      .clause (.range "size" { lt := some "5" }),
      (Query.bool [.clause (.ids ["1"]), .clause (.wildcard "sku" "a*")] [] [] none).negate]
    ∃ q, f.lower? .empty = some q ∧ (Query.bool [] should [] (some 1)).Within q ∧
      ∃! k : Query.Kind, k.Describes [] should [] (some 1) := by
  intro f should
  have hlower : f.lower? .empty = some (Query.bool [] should [] (some 1)).negate := by rfl
  have hwithin : (Query.bool [] should [] (some 1)).Within
      (Query.bool [] should [] (some 1)).negate :=
    .operand (List.mem_singleton_self _) .self
  exact ⟨_, hlower, hwithin, lower?_boolean_kinds .empty f _ hlower _ _ _ _ hwithin⟩

end Filter

end SearchBridge
