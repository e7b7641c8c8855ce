import SearchBridge.Proofs.Body.Spelling
import SearchBridge.Proofs.Filter.Clauses

/-!
# The terms of a filter

A condition on the terms of a field is lowered to a clause on the same number of terms in the same
order. The terms of a boolean field are brought to the form that the index has: the two truth values
are recognised in the spellings that are in use, and no other text becomes one of them, although
lower case is taken of all characters and not of ASCII letters alone. A text in that form stays as
it is, so bringing the terms to it beforehand does not change the query.

## Main definitions

* `IsBooleanTerm` : the form that the index has for a term of a boolean field.
* `Catalog.DeclaresBoolean` : a field is declared boolean, under whatever spelling of its name.
* `Filter.termLeaves`, `Query.termClauses` : the conditions on terms in a filter and in a query.
* `Filter.mapTerms` : a filter with other terms.

## Main results

* `isBooleanTerm_booleanTerm`, `booleanTerm_booleanTerm` : the form is reached, and at once.
* `Filter.lower?_mapTerms` : terms that stand for the same terms are lowered to the same query.
* `Filter.lower?_terms_exact` : the terms of a lowered filter.
-/

namespace SearchBridge

/-! ### Terms of boolean fields -/

/-- What becomes a character before the ASCII letters is that character. -/
theorem Text.toLower_eq_self_of_lt {c : Char} (h : c.toLower.toNat < 0x41) : c.toLower = c := by
  have hascii : ∀ code < 128, (Char.ofNat code).toLower.toNat < 0x41 →
      (Char.ofNat code).toLower = Char.ofNat code := by decide
  have hc := hascii c.toNat (ascii_of_toLower (by omega))
  rw [Char.ofNat_toNat] at hc
  exact hc h

/-- Only a word itself becomes a word of characters before the ASCII letters. -/
theorem Text.eq_of_lower_eq {word s : String} (hword : ∀ d ∈ word.toList, d.toNat < 0x41)
    (h : lower s = word) : s = word := by
  have hplain : ∀ d ∈ word.toList, d.toNat < 128 ∧ d ≠ 'i' ∧ d ≠ 'k' := by
    intro d hd
    have hlt := hword d hd
    refine ⟨by omega, ?_, ?_⟩
    · rintro rfl
      exact absurd hlt (by decide)
    · rintro rfl
      exact absurd hlt (by decide)
  have hascii : lowerAscii s = word := (lowerAscii_eq_iff_lower_eq hplain s).mpr h
  have hself : ∀ c ∈ s.toList, c.toLower = c := by
    intro c hc
    refine toLower_eq_self_of_lt (hword _ ?_)
    rw [← hascii, lowerAscii, String.toList_ofList]
    exact List.mem_map_of_mem hc
  rw [← hascii, lowerAscii, List.map_congr_left hself, List.map_id', String.ofList_toList]

theorem lower_eq_true_iff (s : String) : Text.lower s = "true" ↔ Text.lowerAscii s = "true" :=
  (Text.lowerAscii_eq_iff_lower_eq (by simp) s).symm

theorem lower_eq_false_iff (s : String) : Text.lower s = "false" ↔ Text.lowerAscii s = "false" :=
  (Text.lowerAscii_eq_iff_lower_eq (by simp) s).symm

/-- The form `term` that the index has for a term of a boolean field: a truth value if the given
term is one of its spellings, and the given term in lower case otherwise. -/
structure IsBooleanTerm (given term : String) : Prop where
  eq_true_iff : term = "true" ↔ given = "1" ∨ Text.lowerAscii given = "true"
  eq_false_iff : term = "false" ↔ given = "0" ∨ Text.lowerAscii given = "false"
  eq_lower : term ≠ "true" → term ≠ "false" → term = Text.lower given

theorem booleanTerm_of_ne {s : String} (hone : s ≠ "1") (hzero : s ≠ "0") :
    booleanTerm s = Text.lower s := by
  rw [booleanTerm, if_neg hone, if_neg hzero]

/-- Terms of boolean fields are brought to the form that the index has. -/
theorem isBooleanTerm_booleanTerm (s : String) : IsBooleanTerm s (booleanTerm s) := by
  by_cases hone : s = "1"
  · subst hone
    constructor <;> decide
  by_cases hzero : s = "0"
  · subst hzero
    constructor <;> decide
  rw [booleanTerm_of_ne hone hzero]
  constructor
  · rw [lower_eq_true_iff, or_iff_right hone]
  · rw [lower_eq_false_iff, or_iff_right hzero]
  · exact fun _ _ => rfl

/-- A term in the form of the index stays as it is. -/
@[simp] theorem booleanTerm_booleanTerm (s : String) :
    booleanTerm (booleanTerm s) = booleanTerm s := by
  by_cases hone : s = "1"
  · subst hone
    decide +kernel
  by_cases hzero : s = "0"
  · subst hzero
    decide +kernel
  have hone' : Text.lower s ≠ "1" := mt (Text.eq_of_lower_eq (by simp)) hone
  have hzero' : Text.lower s ≠ "0" := mt (Text.eq_of_lower_eq (by simp)) hzero
  rw [booleanTerm_of_ne hone hzero, booleanTerm_of_ne hone' hzero', Text.lower_lower]

/-! ### Terms of fields -/

namespace Catalog

variable (catalog : Catalog)

/-- The catalog declares a field boolean under some spelling of its name. -/
def DeclaresBoolean (name : String) : Prop :=
  ∃ spelling d, fieldName spelling = fieldName name ∧ catalog.lookup spelling = some d ∧
    d.type = .boolean

theorem isBoolean_iff (name : String) : catalog.isBoolean name ↔ catalog.DeclaresBoolean name := by
  rw [isBoolean]
  constructor
  · intro h
    cases hd : catalog.lookup name with
    | none =>
      rw [hd] at h
      cases h
    | some d =>
      rw [hd] at h
      exact ⟨name, d, rfl, hd, beq_iff_eq.mp h⟩
  · rintro ⟨spelling, d, hspelling, hd, hboolean⟩
    rw [← lookup_fieldName, hspelling, lookup_fieldName] at hd
    rw [hd]
    exact beq_iff_eq.mpr hboolean

/-- The form that the index has for a term of a field. -/
structure IndexesTerm (name given term : String) : Prop where
  boolean : catalog.DeclaresBoolean name → IsBooleanTerm given term
  other : ¬catalog.DeclaresBoolean name → term = given

/-- A clause on terms asks for a field under its name in the index, and for the terms of a condition
on that field one by one. -/
structure IndexesTerms (leaf clause : String × List String) : Prop where
  field : clause.1 = fieldName leaf.1
  terms : List.Forall₂ (catalog.IndexesTerm leaf.1) leaf.2 clause.2

end Catalog

namespace Filter

variable (catalog : Catalog)

/-- A term of a field as the index has it. -/
def indexTerm (name term : String) : String :=
  if catalog.isBoolean name then booleanTerm term else term

theorem indexTerms_eq_map (name : String) (terms : List String) :
    indexTerms catalog name terms = terms.map (indexTerm catalog name) := by
  rw [indexTerms]
  unfold indexTerm
  split
  · rfl
  · exact (List.map_id' terms).symm

/-- The form in which terms are lowered is the one that the index has. -/
theorem indexesTerm_indexTerm (name term : String) :
    catalog.IndexesTerm name term (indexTerm catalog name term) := by
  have hiff := catalog.isBoolean_iff name
  rw [indexTerm]
  split
  · next h => exact ⟨fun _ => isBooleanTerm_booleanTerm term, fun hnot => absurd (hiff.mp h) hnot⟩
  · next h => exact ⟨fun hdeclared => absurd (hiff.mpr hdeclared) h, fun _ => rfl⟩

@[simp] theorem indexTerm_indexTerm (name term : String) :
    indexTerm catalog name (indexTerm catalog name term) = indexTerm catalog name term := by
  rw [indexTerm, indexTerm]
  split
  · exact booleanTerm_booleanTerm term
  · rfl

/-! ### Conditions on terms in a filter -/

mutual

/-- The conditions on terms in a filter, each with its field and its terms, from left to right. -/
def termLeaves : Filter → List (String × List String)
  | .ids _ | .range _ _ | .geoDistance _ _ _ | .wildcard _ _ => []
  | .term name terms => [(name, terms)]
  | .not none => []
  | .not (some f) => termLeaves f
  | .and fs => termLeavesList fs
  | .or fs => termLeavesList fs

/-- The conditions on terms in the filters of a list. -/
def termLeavesList : List Filter → List (String × List String)
  | [] => []
  | f :: rest => termLeaves f ++ termLeavesList rest

end

end Filter

/-- The field and the terms of a clause on terms. -/
def Clause.terms? : Clause → Option (String × List String)
  | .terms field values => some (field, values)
  | _ => none

/-- The clauses on terms in a query, each with its field and its terms, from left to right. -/
def Query.termClauses (q : Query) : List (String × List String) := q.clauses.filterMap Clause.terms?

namespace Filter

variable (catalog : Catalog)

/-- The clause that a condition on terms is lowered to. -/
def indexedLeaf (leaf : String × List String) : String × List String :=
  (SearchBridge.fieldName leaf.1, leaf.2.map (indexTerm catalog leaf.1))

/-- A condition on terms is lowered to the terms of the index, one by one. -/
theorem indexesTerms_indexedLeaf (leaf : String × List String) :
    catalog.IndexesTerms leaf (indexedLeaf catalog leaf) where
  field := rfl
  terms := by
    rw [indexedLeaf, List.forall₂_map_right_iff, List.forall₂_same]
    exact fun term _ => indexesTerm_indexTerm catalog leaf.1 term

mutual

/-- Among the clauses of a filter, those on terms are what its conditions on terms are lowered
to. -/
theorem filterMap_terms?_clauses : (f : Filter) →
    (f.clauses catalog).filterMap Clause.terms? = f.termLeaves.map (indexedLeaf catalog)
  | .ids _ | .geoDistance _ _ _ | .wildcard _ _ | .not none => rfl
  | .term name terms => by
    rw [clauses, indexTerms_eq_map]
    rfl
  | .range name intervals => by
    rw [clauses, List.filterMap_map]
    exact List.filterMap_eq_nil_iff.mpr fun _ _ => rfl
  | .not (some f) => filterMap_terms?_clauses f
  | .and fs | .or fs => filterMap_terms?_clausesList fs

theorem filterMap_terms?_clausesList : (fs : List Filter) →
    (clausesList catalog fs).filterMap Clause.terms? =
      (termLeavesList fs).map (indexedLeaf catalog)
  | [] => rfl
  | f :: rest => by
    rw [clausesList, termLeavesList, List.filterMap_append, List.map_append,
      filterMap_terms?_clauses f, filterMap_terms?_clausesList rest]

end

/-! ### Filters with other terms -/

mutual

/-- A filter with other terms, depending on the field. -/
def mapTerms (g : String → String → String) : Filter → Filter
  | .ids values => .ids values
  | .term name terms => .term name (terms.map (g name))
  | .range name intervals => .range name intervals
  | .geoDistance name centre distance => .geoDistance name centre distance
  | .wildcard name pattern => .wildcard name pattern
  | .not none => .not none
  | .not (some operand) => .not (some (mapTerms g operand))
  | .and operands => .and (mapTermsList g operands)
  | .or operands => .or (mapTermsList g operands)

/-- Filters with other terms. -/
def mapTermsList (g : String → String → String) : List Filter → List Filter
  | [] => []
  | f :: rest => mapTerms g f :: mapTermsList g rest

end

variable {g : String → String → String}

mutual

/-- Terms that the index has in the same form are lowered to the same query, wherever in a filter
they stand. -/
theorem lower?_mapTerms
    (hg : ∀ name term, indexTerm catalog name (g name term) = indexTerm catalog name term) :
    (f : Filter) → (f.mapTerms g).lower? catalog = f.lower? catalog
  | .ids _ | .range _ _ | .geoDistance _ _ _ | .wildcard _ _ | .not none => rfl
  | .term name terms => by
    have hterms : (terms.map (g name)).map (indexTerm catalog name) =
        terms.map (indexTerm catalog name) := by
      rw [List.map_map]
      exact List.map_congr_left fun term _ => hg name term
    rw [mapTerms, lower?, lower?, indexTerms_eq_map, indexTerms_eq_map, hterms]
  | .not (some f) => by rw [mapTerms, lower?, lower?, lower?_mapTerms hg f]
  | .and fs | .or fs => by rw [mapTerms, lower?, lower?, lowerList_mapTermsList hg fs]

theorem lowerList_mapTermsList
    (hg : ∀ name term, indexTerm catalog name (g name term) = indexTerm catalog name term) :
    (fs : List Filter) → lowerList catalog (mapTermsList g fs) = lowerList catalog fs
  | [] => rfl
  | f :: rest => by
    rw [mapTermsList, lowerList, lowerList, lower?_mapTerms hg f, lowerList_mapTermsList hg rest]

end

/-! ### Lowered filters -/

/-- **The terms of a lowered filter.** In the query that a filter is lowered to, the clauses on
terms are those for the filter's conditions on terms, in their order. Each asks for the field under
its name in the index and for as many terms as the condition, term by term in the form that the
index has: a term of a boolean field as a truth value or in lower case, any other term as it is. A
filter from which nothing is lowered has no condition on terms. Bringing all terms of boolean fields
to that form beforehand does not change the query. -/
theorem lower?_terms_exact (f : Filter) :
    (∀ q, f.lower? catalog = some q →
      List.Forall₂ catalog.IndexesTerms f.termLeaves q.termClauses) ∧
    (f.lower? catalog = none → f.termLeaves = []) ∧
    (f.mapTerms fun name term => if catalog.isBoolean name then booleanTerm term else term).lower?
      catalog = f.lower? catalog := by
  have hleaves := filterMap_terms?_clauses catalog f
  obtain ⟨hsome, hnone⟩ := lower?_keeps_clauses catalog f
  refine ⟨fun q hq => ?_, fun hlower => ?_, lower?_mapTerms catalog (indexTerm_indexTerm catalog) f⟩
  · rw [Query.termClauses, hsome q hq, hleaves, List.forall₂_map_right_iff, List.forall₂_same]
    exact fun leaf _ => indexesTerms_indexedLeaf catalog leaf
  · rw [hnone hlower] at hleaves
    exact List.map_eq_nil_iff.mp hleaves.symm

/-- Spellings of truth values on a boolean field below a negation, and of texts that are none: a
capital sigma at the end of a word, and the same spellings on another field. -/
theorem lower?_terms_exact_of_spellings :
    let catalog : Catalog := .ofDeclarations [("InStock", { type := .boolean })]
    let f : Filter := .and [.not (some (.or [.ids ["1"], .term "INSTOCK" ["1", "FaLsE", "ΟΔΟΣ"]])),
      .not (some (.range "Price" [])), .term "Color" ["1", "FaLsE"]]
    ∃ q, f.lower? catalog = some q ∧
      List.Forall₂ catalog.IndexesTerms f.termLeaves q.termClauses ∧
      q.termClauses = [("instock", ["true", "false", "οδος"]), ("color", ["1", "FaLsE"])] ∧
      (Filter.not none).lower? catalog = none ∧ (Filter.not none).termLeaves = [] := by
  intro catalog f
  have hvacuous : (Filter.not none).lower? catalog = none := rfl
  exact ⟨_, rfl, (lower?_terms_exact catalog f).1 _ rfl, by decide +kernel, hvacuous,
    (lower?_terms_exact catalog _).2.1 hvacuous⟩

end Filter

end SearchBridge
