import SearchBridge.Proofs.Filter.NormalForm
import SearchBridge.Proofs.Query.Flatness

/-!
# How operands are grouped

The operands of nested conjunctions are lowered to one flat list if they are grouped to the left. A
conjunction whose first operand that counts is not lowered to a conjunction, but whose second one
is, becomes a pair that holds the second one whole, and likewise for disjunctions, to which the
ranges with more than one interval belong. Whether this happens anywhere in a filter can be told
from the filter alone, and it is the only way in which a lowered query is not flat. Conjunctions
with the same operands in the same order, however these are grouped, are lowered to one query if
they are grouped to the left; so a grouping that is lowered to another query is not.

## Main definitions

* `Filter.shape?` : the shape of the query that a filter is lowered to.
* `Filter.groupsLeft` : the operands of each conjunction and disjunction are grouped to the left.
* `Filter.leaves` : the operands of nested conjunctions, or of nested disjunctions.

## Main results

* `Filter.forall_isFlat_lower?_iff` : when a lowered query is flat.
* `Filter.lower?_eq_of_leaves_eq` : the grouping of operands does not show if it is to the left.
* `Filter.lower?_isFlat_iff` : flatness and grouping, together.
-/

namespace SearchBridge

open Query (Connective Shape)

/-- The filter that joins others. -/
def Query.Connective.filter : Connective → List Filter → Filter
  | .and, fs => .and fs
  | .or, fs => .or fs

namespace Filter

mutual

/-- The shape of the query that a filter is lowered to, nothing if it is lowered to nothing. -/
def shape? : Filter → Option Shape
  | .ids _ | .term _ _ | .geoDistance _ _ _ | .wildcard _ _ => some .other
  | .range _ [] => none
  | .range _ [_] => some .other
  | .range _ (_ :: _ :: _) => some (.joined .or)
  | .not none => none
  | .not (some f) => (shape? f).map fun _ => .other
  | .and fs => some (.ofOperands .and (shapes fs))
  | .or fs => some (.ofOperands .or (shapes fs))

/-- The shapes of the queries that filters are lowered to. -/
def shapes : List Filter → List Shape
  | [] => []
  | f :: rest => (shape? f).toList ++ shapes rest

end

mutual

/-- In each conjunction and disjunction of a filter, the second operand that counts is lowered to a
query of the same kind only if the first one is. -/
def groupsLeft : Filter → Bool
  | .ids _ | .term _ _ | .range _ _ | .geoDistance _ _ _ | .wildcard _ _ | .not none => true
  | .not (some f) => groupsLeft f
  | .and fs => Shape.groupsLeft .and (shapes fs) && allGroupLeft fs
  | .or fs => Shape.groupsLeft .or (shapes fs) && allGroupLeft fs

/-- `Filter.groupsLeft` of every filter. -/
def allGroupLeft : List Filter → Bool
  | [] => true
  | f :: rest => groupsLeft f && allGroupLeft rest

end

mutual

/-- The operands of nested conjunctions, or of nested disjunctions, from left to right, however they
are grouped. Any other filter is its own operand. -/
def leaves : Connective → Filter → List Filter
  | .and, .and fs => leavesList .and fs
  | .or, .or fs => leavesList .or fs
  | _, f => [f]

/-- The operands of the filters in a list. -/
def leavesList : Connective → List Filter → List Filter
  | _, [] => []
  | c, f :: rest => leaves c f ++ leavesList c rest

end

variable (catalog : Catalog)

/-! ### Flat queries -/

/-- A range is lowered to the disjunction of its intervals from left to right. -/
theorem anyOf?_eq_foldl {qs : List Query} (h : qs ≠ []) :
    anyOf? qs = some (qs.foldl Query.or .matchNone) := by
  obtain ⟨q, qs, rfl⟩ := List.exists_cons_of_ne_nil h
  rw [anyOf?, List.foldl_cons]
  exact congrArg (fun p => some (qs.foldl Query.or p)) (Connective.neutral_join (c := .or) q).symm

theorem lower?_filter (c : Connective) (fs : List Filter) : (c.filter fs).lower? catalog =
    some ((lowerList catalog fs).foldl c.join c.neutral) := by
  cases c <;> rfl

/-- The intervals of a range are lowered to clauses, which no join merges. -/
theorem map_shape_intervals (field : String) (intervals : List Interval) :
    (intervals.map (intervalQuery field)).map Query.shape = intervals.map fun _ => .other := by
  rw [List.map_map]
  rfl

/-- The shape of a lowered range. -/
theorem map_shape_range (name : String) (intervals : List Interval) :
    ((Filter.range name intervals).lower? catalog).map Query.shape =
      (Filter.range name intervals).shape? := by
  match intervals with
  | [] => rfl
  | [i] => rfl
  | i :: j :: rest =>
    rw [lower?, anyOf?_eq_foldl (by simp), Option.map_some]
    refine congrArg some ((Connective.shape_foldl (c := .or) _).trans ?_)
    rw [map_shape_intervals]
    rfl

/-- A lowered range is flat. -/
theorem isFlat_lower?_range (name : String) (intervals : List Interval) :
    ∀ q ∈ (Filter.range name intervals).lower? catalog, q.IsFlat := by
  by_cases h : intervals = []
  · subst h
    rintro q ⟨⟩
  · rw [lower?, anyOf?_eq_foldl (by simpa using h)]
    rintro _ ⟨⟩
    refine (Connective.isFlat_foldl_iff (c := .or) _).mpr ⟨fun q hq => ?_, ?_⟩
    · obtain ⟨i, -, rfl⟩ := List.mem_map.mp hq
      exact Query.isFlat_of_operands_eq_nil rfl
    · rw [map_shape_intervals]
      obtain _ | ⟨_, _ | ⟨_, _⟩⟩ := intervals <;> rfl

mutual

/-- The shape of the query that a filter is lowered to can be told from the filter. -/
theorem map_shape_lower? : (f : Filter) → (f.lower? catalog).map Query.shape = f.shape?
  | .ids _ | .term _ _ | .geoDistance _ _ _ | .wildcard _ _ | .not none => rfl
  | .range name intervals => map_shape_range catalog name intervals
  | .not (some f) => by
    rw [shape?, ← map_shape_lower? f, lower?, Option.map_map, Option.map_map]
    rfl
  | .and fs => by
    rw [shape?, ← map_shape_lowerList fs]
    exact congrArg some (Connective.shape_foldl (c := .and) _)
  | .or fs => by
    rw [shape?, ← map_shape_lowerList fs]
    exact congrArg some (Connective.shape_foldl (c := .or) _)

theorem map_shape_lowerList : (fs : List Filter) →
    (lowerList catalog fs).map Query.shape = shapes fs
  | [] => rfl
  | f :: fs => by
    rw [lowerList, shapes, List.map_append, map_shape_lowerList fs, ← map_shape_lower? f]
    cases f.lower? catalog <;> rfl

end

mutual

/-- **Lowered queries are flat** exactly if the operands of the filter are grouped to the left. -/
theorem forall_isFlat_lower?_iff : (f : Filter) →
    ((∀ q ∈ f.lower? catalog, q.IsFlat) ↔ f.groupsLeft)
  | .ids _ | .term _ _ | .geoDistance _ _ _ | .wildcard _ _ => by
    refine iff_of_true ?_ rfl
    rintro _ ⟨⟩
    exact Query.isFlat_of_operands_eq_nil rfl
  | .range name intervals => iff_of_true (isFlat_lower?_range catalog name intervals) rfl
  | .not none => by
    refine iff_of_true ?_ rfl
    rintro _ ⟨⟩
  | .not (some f) => by
    rw [groupsLeft, ← forall_isFlat_lower?_iff f, lower?]
    cases f.lower? catalog <;> simp [Query.isFlat_negate_iff]
  | .and fs => by
    rw [groupsLeft, Bool.and_eq_true, ← forall_isFlat_lowerList_iff fs,
      ← map_shape_lowerList catalog fs, and_comm, ← Connective.isFlat_foldl_iff]
    simp [lower?, Connective.join, Connective.neutral]
  | .or fs => by
    rw [groupsLeft, Bool.and_eq_true, ← forall_isFlat_lowerList_iff fs,
      ← map_shape_lowerList catalog fs, and_comm, ← Connective.isFlat_foldl_iff]
    simp [lower?, Connective.join, Connective.neutral]

theorem forall_isFlat_lowerList_iff : (fs : List Filter) →
    ((∀ q ∈ lowerList catalog fs, q.IsFlat) ↔ allGroupLeft fs)
  | [] => iff_of_true (fun _ h => absurd h List.not_mem_nil) rfl
  | f :: fs => by
    rw [lowerList, allGroupLeft, Bool.and_eq_true, List.forall_mem_append,
      forall_isFlat_lowerList_iff fs, ← forall_isFlat_lower?_iff f]
    simp only [Option.mem_toList, Option.mem_def]

end

/-! ### Regrouping -/

/-- What the query that a filter is lowered to adds to a query of the join's kind. -/
def loweredParts (c : Connective) (f : Filter) : List Query :=
  (f.lower? catalog).toList.flatMap c.parts

mutual

/-- A filter whose operands are grouped to the left adds what its leaves add. -/
theorem loweredParts_eq_flatMap_leaves (c : Connective) : (f : Filter) → f.groupsLeft →
    loweredParts catalog c f = (f.leaves c).flatMap (loweredParts catalog c)
  | .ids _, _ | .term _ _, _ | .range _ _, _ | .geoDistance _ _ _, _ | .wildcard _ _, _
  | .not _, _ => by cases c <;> exact (List.flatMap_singleton ..).symm
  | .and fs, h => by
    cases c with
    | and =>
      rw [groupsLeft, Bool.and_eq_true] at h
      rw [leaves, ← flatMap_parts_lowerList .and fs h.2,
        ← Connective.parts_foldl (c := .and) (by rw [map_shape_lowerList]; exact h.1)]
      exact List.flatMap_singleton ..
    | or => exact (List.flatMap_singleton ..).symm
  | .or fs, h => by
    cases c with
    | and => exact (List.flatMap_singleton ..).symm
    | or =>
      rw [groupsLeft, Bool.and_eq_true] at h
      rw [leaves, ← flatMap_parts_lowerList .or fs h.2,
        ← Connective.parts_foldl (c := .or) (by rw [map_shape_lowerList]; exact h.1)]
      exact List.flatMap_singleton ..

theorem flatMap_parts_lowerList (c : Connective) : (fs : List Filter) → allGroupLeft fs →
    (lowerList catalog fs).flatMap c.parts = (leavesList c fs).flatMap (loweredParts catalog c)
  | [], _ => by cases c <;> rfl
  | f :: fs, h => by
    rw [allGroupLeft, Bool.and_eq_true] at h
    have hf := loweredParts_eq_flatMap_leaves c f h.1
    rw [lowerList, leavesList, List.flatMap_append, List.flatMap_append,
      flatMap_parts_lowerList c fs h.2, ← hf, loweredParts]

end

/-- **Grouping does not show** as long as it is to the left: nested conjunctions with the same
operands are lowered to one query, and so are nested disjunctions. -/
theorem lower?_eq_of_leaves_eq {c : Connective} {fs gs : List Filter}
    (h : leavesList c fs = leavesList c gs) (hfs : (c.filter fs).groupsLeft)
    (hgs : (c.filter gs).groupsLeft) :
    (c.filter fs).lower? catalog = (c.filter gs).lower? catalog := by
  have hparts {hs : List Filter} (hhs : (c.filter hs).groupsLeft) :
      c.parts ((lowerList catalog hs).foldl c.join c.neutral) =
        (leavesList c hs).flatMap (loweredParts catalog c) := by
    have hleaves : (c.filter hs).leaves c = leavesList c hs := by
      cases c <;> rw [Connective.filter, leaves]
    rw [← hleaves, ← loweredParts_eq_flatMap_leaves catalog c _ hhs, loweredParts, lower?_filter]
    exact (List.flatMap_singleton ..).symm
  have hnormal (hs : List Filter) :
      ((lowerList catalog hs).foldl c.join c.neutral).IsNormal :=
    Query.joinClosed_isNormal.lower? catalog (c.filter hs) _ (lower?_filter catalog c hs)
  rw [lower?_filter, lower?_filter]
  refine congrArg some ((hnormal fs).eq_of_parts_eq (c := c) (hnormal gs) ?_)
  rw [hparts hfs, hparts hgs, h]

/-- A lowered query is flat if the operands of its filter are grouped to the left. -/
theorem isFlat_iff_of_lower? {f : Filter} {q : Query} (h : f.lower? catalog = some q) :
    q.IsFlat ↔ f.groupsLeft := by
  rw [← forall_isFlat_lower?_iff catalog f, h]
  exact ⟨fun hq _ hp => Option.some.inj hp ▸ hq, fun hall => hall q rfl⟩

/-- **Flatness and grouping.** The query that a filter is lowered to is flat exactly if, in each
conjunction and each disjunction of the filter, the second operand that counts is lowered to a query
of the same kind only if the first one is. Nested conjunctions with the same operands in the same
order, and likewise nested disjunctions, of which one grouping is to the left are lowered to the
query of that grouping exactly if they are grouped to the left as well. -/
theorem lower?_isFlat_iff :
    (∀ (f : Filter) (q : Query), f.lower? catalog = some q → (q.IsFlat ↔ f.groupsLeft)) ∧
    ∀ (c : Connective) (fs gs : List Filter), leavesList c fs = leavesList c gs →
      (c.filter gs).groupsLeft →
      ((c.filter fs).lower? catalog = (c.filter gs).lower? catalog ↔
        (c.filter fs).groupsLeft) := by
  refine ⟨fun f q => isFlat_iff_of_lower? catalog, fun c fs gs hleaves hgs =>
    ⟨fun heq => ?_, fun hfs => lower?_eq_of_leaves_eq catalog hleaves hfs hgs⟩⟩
  have hflat := (isFlat_iff_of_lower? catalog (lower?_filter catalog c gs)).mpr hgs
  rw [lower?_filter catalog c gs] at heq
  exact (isFlat_iff_of_lower? catalog heq).mp hflat

/-- Three operands grouped to the left and to the right, the last of which is a range that is
lowered to a disjunction. -/
theorem lower?_isFlat_iff_of_three_operands :
    let sizes : Filter := .range "size" [{ upper := some "2" }, { lower := some "5" }]
    let left : List Filter := [.and [.ids ["1"], .wildcard "sku" "a*"], sizes]
    let right : List Filter := [.ids ["1"], .and [.wildcard "sku" "a*", sizes]]
    (∃ q, (Filter.and left).lower? .empty = some q ∧ q.IsFlat) ∧
      leavesList .and right = leavesList .and left ∧ (Filter.and left).groupsLeft ∧
      (Filter.and right).lower? .empty ≠ (Filter.and left).lower? .empty := by
  intro sizes left right
  have hleft : (Filter.and left).groupsLeft := by decide
  have hright : ¬(Filter.and right).groupsLeft := by decide
  obtain ⟨hflat, hgrouping⟩ := lower?_isFlat_iff .empty
  refine ⟨⟨_, rfl, (hflat (.and left) _ rfl).mpr hleft⟩, rfl, hleft, fun heq => ?_⟩
  exact hright ((hgrouping .and right left rfl hleft).mp heq)

/-- A range among the alternatives is lowered to a disjunction within a disjunction, and grouping
three operands to the right is lowered to a conjunction within a conjunction. -/
theorem not_forall_isFlat_lower? :
    (¬∀ (catalog : Catalog) (f : Filter) (q : Query), f.lower? catalog = some q → q.IsFlat) ∧
      ¬∀ (catalog : Catalog) (fs gs : List Filter), leavesList .and fs = leavesList .and gs →
        (Filter.and fs).lower? catalog = (Filter.and gs).lower? catalog := by
  constructor
  · intro h
    let f : Filter :=
      .or [.ids ["1"], .range "size" [{ upper := some "2" }, { lower := some "5" }]]
    have hgroups : f.groupsLeft = true := (isFlat_iff_of_lower? .empty rfl).mp (h .empty f _ rfl)
    exact absurd hgroups (by decide)
  · intro h
    have heq := h .empty [.and [.ids ["1"], .ids ["2"]], .ids ["3"]]
      [.ids ["1"], .and [.ids ["2"], .ids ["3"]]] rfl
    have hquery := Option.some.inj heq
    cases hquery

end Filter

end SearchBridge
