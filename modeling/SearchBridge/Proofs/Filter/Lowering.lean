import SearchBridge.Filter.Lowering

/-!
# Properties of lowered queries

Lowering builds queries from clauses and the two neutral queries by joining and negating. A property
that these have and keep is therefore one of every lowered query, whatever the filter tree.

## Main definitions

* `Query.JoinClosed` : a property that lowering cannot leave.

## Main results

* `Query.JoinClosed.lower?` : such a property holds of every lowered query.
-/

namespace SearchBridge

/-- A property of queries that the queries lowering starts from have, and that joining and negating
keep. -/
structure Query.JoinClosed (P : Query → Prop) : Prop where
  clause : ∀ c, P (.clause c)
  matchAll : P .matchAll
  matchNone : P .matchNone
  and : ∀ {a b}, P a → P b → P (a.and b)
  or : ∀ {a b}, P a → P b → P (a.or b)
  negate : ∀ {a}, P a → P a.negate

namespace Query.JoinClosed

variable {P : Query → Prop} (catalog : Catalog)

/-- The property holds of the disjunction of intervals. -/
theorem anyOf? (h : JoinClosed P) {qs : List Query} (hqs : ∀ p ∈ qs, P p) :
    ∀ q ∈ Filter.anyOf? qs, P q := by
  intro q hq
  cases qs with
  | nil => cases hq
  | cons p qs =>
    obtain ⟨hp, hqs⟩ := List.forall_mem_cons.mp hqs
    obtain rfl := Option.some.inj hq
    exact List.foldlRecOn qs Query.or hp fun _ ha b hb => h.or ha (hqs b hb)

mutual

/-- A property that lowering cannot leave holds of every lowered query. -/
theorem lower? (h : JoinClosed P) : (f : Filter) → ∀ q ∈ f.lower? catalog, P q
  | .ids _ | .term _ _ | .geoDistance _ _ _ | .wildcard _ _ => by
    rintro _ ⟨⟩
    exact h.clause _
  | .range name intervals => by
    refine h.anyOf? fun q hq => ?_
    obtain ⟨i, _, rfl⟩ := List.mem_map.mp hq
    exact h.clause _
  | .not none => by
    rintro _ ⟨⟩
  | .not (some f) => by
    intro q hq
    obtain ⟨p, hp, rfl⟩ := Option.map_eq_some_iff.mp hq
    exact h.negate (lower? h f p hp)
  | .and fs => by
    rintro _ ⟨⟩
    exact List.foldlRecOn _ Query.and h.matchAll fun _ ha b hb => h.and ha (lowerList h fs b hb)
  | .or fs => by
    rintro _ ⟨⟩
    exact List.foldlRecOn _ Query.or h.matchNone fun _ ha b hb => h.or ha (lowerList h fs b hb)

/-- A property that lowering cannot leave holds of the lowered queries of a list. -/
theorem lowerList (h : JoinClosed P) : (fs : List Filter) → ∀ q ∈ Filter.lowerList catalog fs, P q
  | [] => by
    intro q hq
    cases hq
  | f :: fs => by
    intro q hq
    rcases List.mem_append.mp hq with hq | hq
    · exact lower? h f q (Option.mem_toList.mp hq)
    · exact lowerList h fs q hq

end

end Query.JoinClosed

end SearchBridge
