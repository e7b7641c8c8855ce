import SearchBridge.Proofs.Filter.Terms
import SearchBridge.Proofs.Table

/-!
# What compiling reads of a catalog

Compiling a request asks the catalog two kinds of questions: whether a field with a condition on its
terms is boolean, and whether a field that a facet counts has a sibling with unchanged values. The
conditions may stand at any depth of the request's filter and of the filters of its facets. Catalogs
that answer the questions of a request alike compile it to one body, whatever else they declare.

No question is idle: catalogs that compile every request to one body answer every question alike.

## Main definitions

* `SearchRequest.termFieldNames`, `SearchRequest.countedFieldNames` : the fields that the questions
  are about.
* `SearchRequest.AsksAbout` : a request asks about a field, under whatever spelling of its name.
* `Catalog.AnswerAlike` : catalogs that answer the questions of a request alike.
* `Catalog.remove` : a catalog without a field.

## Main results

* `Filter.lower?_congr`, `Facet.entries_congr` : what filters and facets ask for.
* `SearchRequest.compile_eq_of_answers` : nothing but the answers matters.
* `SearchRequest.compile_eq_iff_answers_eq` : every answer matters to some request.
-/

namespace SearchBridge

/-! ### Changes to a catalog -/

namespace Catalog

variable (catalog : Catalog) (name other : String)

/-- A catalog without a field. -/
def remove : Catalog where
  fields := catalog.fields.without (fieldName name)

/-- A declaration changes what is known about its own field alone. -/
theorem lookup_insert (d : FieldDescriptor) : (catalog.insert name d).lookup other =
    if fieldName other = fieldName name then some d else catalog.lookup other := by
  rw [lookup, insert, Table.get?_put, lookup]

/-- Removing a field changes what is known about that field alone. -/
theorem lookup_remove_of_ne (h : fieldName other ≠ fieldName name) :
    (catalog.remove name).lookup other = catalog.lookup other := by
  rw [lookup, remove, Table.get?_without_of_ne _ h, lookup]

variable {catalog} {d : Catalog} {name}

theorem isBoolean_congr (h : catalog.lookup name = d.lookup name) :
    catalog.isBoolean name = d.isBoolean name := by
  rw [isBoolean, isBoolean, h]

theorem hasRawSibling_congr (h : catalog.lookup name = d.lookup name) :
    catalog.hasRawSibling name = d.hasRawSibling name := by
  rw [hasRawSibling, hasRawSibling, h]

end Catalog

/-! ### Filters -/

namespace Filter

/-- The fields with conditions on their terms in a filter. -/
def termFieldNames (f : Filter) : List String := f.termLeaves.map Prod.fst

/-- The fields with conditions on their terms in the filters of a list. -/
def termFieldNamesList (fs : List Filter) : List String := (termLeavesList fs).map Prod.fst

@[simp] theorem termFieldNamesList_cons (f : Filter) (fs : List Filter) :
    termFieldNamesList (f :: fs) = f.termFieldNames ++ termFieldNamesList fs := List.map_append ..

variable {c d : Catalog}

mutual

/-- A filter asks whether the fields with conditions on their terms are boolean. -/
theorem lower?_congr : (f : Filter) →
    (∀ name ∈ f.termFieldNames, c.isBoolean name = d.isBoolean name) → f.lower? c = f.lower? d
  | .ids _, _ | .range _ _, _ | .geoDistance _ _ _, _ | .wildcard _ _, _ | .not none, _ => rfl
  | .term name values, h => by
    rw [lower?, lower?, indexTerms, indexTerms, h name (List.mem_singleton_self _)]
  | .not (some f), h => by rw [lower?, lower?, lower?_congr f h]
  | .and fs, h | .or fs, h => by rw [lower?, lower?, lowerList_congr fs h]

theorem lowerList_congr : (fs : List Filter) →
    (∀ name ∈ termFieldNamesList fs, c.isBoolean name = d.isBoolean name) →
      lowerList c fs = lowerList d fs
  | [], _ => rfl
  | f :: fs, h => by
    rw [termFieldNamesList_cons, List.forall_mem_append] at h
    rw [lowerList, lowerList, lower?_congr f h.1, lowerList_congr fs h.2]

end

/-- An optional filter asks what the filter asks if there is one. -/
theorem bind_lower?_congr {f : Option Filter}
    (h : ∀ name ∈ f.toList.flatMap termFieldNames, c.isBoolean name = d.isBoolean name) :
    f.bind (·.lower? c) = f.bind (·.lower? d) := by
  refine Option.bind_congr fun g hg => lower?_congr g fun name hname => ?_
  exact h name (List.mem_flatMap.mpr ⟨g, Option.mem_toList.mpr hg, hname⟩)

end Filter

/-! ### Facets -/

namespace Facet

variable {c d : Catalog}

/-- A facet asks whether its own field has a sibling with unchanged values, and what its filter
asks. -/
theorem entries_congr (f : Facet)
    (hraw : c.hasRawSibling f.fieldName = d.hasRawSibling f.fieldName)
    (hterms : ∀ name ∈ f.filter.toList.flatMap Filter.termFieldNames,
      c.isBoolean name = d.isBoolean name) : f.entries c = f.entries d := by
  have htarget : f.targetField c = f.targetField d := by
    rw [targetField, targetField, Catalog.hasRawSibling_fieldName, Catalog.hasRawSibling_fieldName,
      hraw]
  have hscope : f.scope? c = f.scope? d := Filter.bind_lower?_congr hterms
  rw [entries, entries, htarget, hscope]

end Facet

/-! ### Requests -/

namespace SearchRequest

/-- The filters of a request: its own and those of its facets. -/
def filters (r : SearchRequest) : List Filter :=
  r.filter.toList ++ r.facets.flatMap fun f => f.filter.toList

/-- The fields with conditions on their terms, at any depth of the filters of a request. -/
def termFieldNames (r : SearchRequest) : List String := r.filters.flatMap Filter.termFieldNames

/-- The fields that the facets of a request count. -/
def countedFieldNames (r : SearchRequest) : List String := r.facets.map Facet.fieldName

/-- A request asks something about a field, under whatever spelling of its name. -/
def AsksAbout (r : SearchRequest) (name : String) : Prop :=
  ∃ used ∈ r.termFieldNames ++ r.countedFieldNames, fieldName used = fieldName name

instance (r : SearchRequest) (name : String) : Decidable (r.AsksAbout name) :=
  inferInstanceAs (Decidable (∃ used ∈ _, _))

end SearchRequest

/-- Two catalogs answer the questions of a request alike: which of the fields with conditions on
their terms are boolean, and which of the fields that are counted have siblings with unchanged
values. -/
structure Catalog.AnswerAlike (r : SearchRequest) (c d : Catalog) : Prop where
  isBoolean : ∀ name ∈ r.termFieldNames, c.isBoolean name = d.isBoolean name
  hasRawSibling : ∀ name ∈ r.countedFieldNames, c.hasRawSibling name = d.hasRawSibling name

/-- Catalogs that know the same about every field that a request asks about answer alike. -/
theorem Catalog.AnswerAlike.of_lookup {r : SearchRequest} {c d : Catalog}
    (h : ∀ name, r.AsksAbout name → c.lookup name = d.lookup name) : AnswerAlike r c d where
  isBoolean name hname :=
    isBoolean_congr (h name ⟨name, List.mem_append_left _ hname, rfl⟩)
  hasRawSibling name hname :=
    hasRawSibling_congr (h name ⟨name, List.mem_append_right _ hname, rfl⟩)

namespace SearchRequest

variable (r : SearchRequest) (index : String) (options : CompilerOptions) {c d : Catalog}

/-- Catalogs that answer the questions of a request alike compile it to one body. -/
theorem compile_congr (h : c.AnswerAlike r d) :
    r.compile index c options = r.compile index d options := by
  have hterms := h.isBoolean
  rw [termFieldNames, filters, List.flatMap_append, List.forall_mem_append] at hterms
  have hfilter : r.filter.bind (·.lower? c) = r.filter.bind (·.lower? d) :=
    Filter.bind_lower?_congr hterms.1
  have hentries : r.facets.flatMap (·.entries c) = r.facets.flatMap (·.entries d) := by
    refine List.flatMap_congr fun f hf => f.entries_congr ?_ fun name hname => ?_
    · exact h.hasRawSibling _ (List.mem_map_of_mem hf)
    · rw [List.flatMap_assoc] at hterms
      exact hterms.2 name (List.mem_flatMap.mpr ⟨f, hf, hname⟩)
  rw [compile, compile, hfilter, aggregations?, aggregations?, aggregationTable, aggregationTable,
    hentries]

/-- An answer shows in the body of a request if it chooses between two things that differ. -/
private theorem eq_of_choice_eq {α : Type*} {x y : α} (hne : x ≠ y) {p q : Bool}
    (h : (if p then x else y) = if q then x else y) : p = q := by
  rw [Bool.eq_iff_iff]
  calc p = true ↔ (if p then x else y) = x := hne.ite_eq_left_iff.symm
    _ ↔ (if q then x else y) = x := by rw [h]
    _ ↔ q = true := hne.ite_eq_left_iff

/-- **Every answer matters to some request.** A condition on the terms of a field shows whether the
field is boolean, and counting the field in an interval shows whether it has a sibling with
unchanged values. So catalogs that compile every request to one body give the same answers. -/
theorem compile_eq_iff_answers_eq :
    (∀ r : SearchRequest, r.compile index c options = r.compile index d options) ↔
      ∀ name, c.isBoolean name = d.isBoolean name ∧
        c.hasRawSibling name = d.hasRawSibling name := by
  refine ⟨fun h name => ⟨?_, ?_⟩, fun h r =>
    r.compile_congr index options ⟨fun name _ => (h name).1, fun name _ => (h name).2⟩⟩
  · have hfilter := congrArg SearchBody.postFilter (h { filter := some (.term name ["1"]) })
    have hterms : Filter.indexTerms c name ["1"] = Filter.indexTerms d name ["1"] := by
      injection hfilter with hquery
      injection hquery with hclause
      injection hclause
    have hone : ["1"].map booleanTerm ≠ ["1"] := by decide
    exact eq_of_choice_eq hone hterms
  · let f : Facet := { fieldName := name, counted := .intervals [{}] }
    have haggregations := congrArg SearchBody.aggregations (h { facets := [f] })
    have htarget : f.targetField c = f.targetField d := by
      injection haggregations with htable
      injection htable with hentry
      injection hentry with _ haggregation
      injection haggregation with hquery
      injection hquery with hmust
      injection hmust with hinterval
      injection hinterval with hclause
      injection hclause
    have hraw : rawFieldName (SearchBridge.fieldName name) ≠ SearchBridge.fieldName name := by
      rw [rawFieldName, String.append_assoc]
      exact fun heq => absurd (congrArg String.length heq) (by simp [rawSubfield])
    rw [← c.hasRawSibling_fieldName, ← d.hasRawSibling_fieldName]
    exact eq_of_choice_eq hraw htarget

/-- **Compiling reads nothing of a catalog but its answers.** Two catalogs that agree on which of
the fields with conditions on their terms are boolean, at any depth of the request's filter and of
the filters of its facets, and on which of the counted fields have siblings with unchanged values
compile the request to one body. So declaring a field that the request does not ask about, declaring
it anew or removing it changes nothing. Neither does giving a field that is not boolean another type
that is not, as long as its sibling neither comes nor goes. -/
theorem compile_eq_of_answers :
    (∀ c d : Catalog, c.AnswerAlike r d →
      r.compile index c options = r.compile index d options) ∧
    (∀ (c : Catalog) (name : String), ¬r.AsksAbout name →
      (∀ descriptor, r.compile index (c.insert name descriptor) options =
        r.compile index c options) ∧
      r.compile index (c.remove name) options = r.compile index c options) ∧
    ∀ (c : Catalog) (name : String) (old new : FieldDescriptor), c.lookup name = some old →
      old.type ≠ .boolean → new.type ≠ .boolean → new.hasRawSibling = old.hasRawSibling →
      r.compile index (c.insert name new) options = r.compile index c options := by
  refine ⟨fun c d => r.compile_congr index options, fun c name hname => ?_,
    fun c name old new hold hnot hnew hraw => ?_⟩
  · have hother (used : String) (hused : r.AsksAbout used) : fieldName used ≠ fieldName name := by
      rintro heq
      obtain ⟨spelling, hspelling, hsame⟩ := hused
      exact hname ⟨spelling, hspelling, hsame.trans heq⟩
    refine ⟨fun descriptor => ?_, ?_⟩
    · refine r.compile_congr index options (.of_lookup fun used hused => ?_)
      rw [Catalog.lookup_insert, if_neg (hother used hused)]
    · refine r.compile_congr index options (.of_lookup fun used hused => ?_)
      exact c.lookup_remove_of_ne name used (hother used hused)
  · have hsame (used : String) (hused : fieldName used = fieldName name) :
        c.lookup used = some old := by
      rw [← Catalog.lookup_fieldName, hused, Catalog.lookup_fieldName, hold]
    refine r.compile_congr index options ⟨fun used _ => ?_, fun used _ => ?_⟩
    · rw [Catalog.isBoolean, Catalog.isBoolean, Catalog.lookup_insert]
      by_cases hused : fieldName used = fieldName name
      · rw [if_pos hused, hsame used hused]
        exact (beq_false_of_ne hnew).trans (beq_false_of_ne hnot).symm
      · rw [if_neg hused]
    · rw [Catalog.hasRawSibling, Catalog.hasRawSibling, Catalog.lookup_insert]
      by_cases hused : fieldName used = fieldName name
      · rw [if_pos hused, hsame used hused]
        exact hraw
      · rw [if_neg hused]

/-- Two catalogs that share two fields, one of which has another type and the other another sibling,
and fields that only one of them has. -/
theorem compile_eq_of_answers_under_not :
    let brands : Facet := {
      id := some "b"
      fieldName := "Brand"
      filter := some (.or [.term "Color" ["1"]])
      counted := .terms none none }
    let r : SearchRequest := {
      filter := some (.and [.range "Price" [], .not (some (.term "INSTOCK" ["1"]))])
      facets := [brands] }
    let c : Catalog := .ofDeclarations [("InStock", { type := .boolean }),
      ("brand", { type := .keyword, hasRawSibling := true }), ("Price", { type := .double })]
    let d : Catalog := .ofDeclarations [("BRAND", { type := .text, hasRawSibling := true }),
      ("instock", { type := .boolean, hasRawSibling := true }), ("Color", { type := .keyword })]
    c.AnswerAlike r d ∧ r.compile "products" c {} = r.compile "products" d {} ∧
      ¬r.AsksAbout "PRICE" ∧
      r.compile "products" (c.remove "PRICE") {} = r.compile "products" c {} ∧
      d.lookup "COLOR" = some { type := .keyword } ∧
      r.compile "products" (d.insert "COLOR" { type := .text }) {} =
        r.compile "products" d {} := by
  intro brands r c d
  have hanswers : c.AnswerAlike r d := ⟨by decide +kernel, by decide +kernel⟩
  have hprice : ¬r.AsksAbout "PRICE" := by decide +kernel
  have hcolor : d.lookup "COLOR" = some { type := .keyword } := by decide +kernel
  obtain ⟨halike, hother, hretyped⟩ := r.compile_eq_of_answers "products" {}
  exact ⟨hanswers, halike c d hanswers, hprice, (hother c "PRICE" hprice).2, hcolor,
    hretyped d "COLOR" _ { type := .text } hcolor (by decide) (by decide) rfl⟩

end SearchRequest

end SearchBridge
