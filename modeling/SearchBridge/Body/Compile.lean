import SearchBridge.Body.Basic

/-!
# Compiling requests

A request becomes a search body: the keywords a query over several fields, the filter one that is
applied after counting, the facets aggregations, the sort criteria sort clauses. Compiling never
fails, and an absent request gives an empty body.
-/

namespace SearchBridge

/-- The settings of the compilation. -/
structure CompilerOptions where
  /-- The analyzer of keywords; absent, each field's own is used. -/
  analyzer : Option String := some "standard"
  /-- The field to search in when the request names none. -/
  defaultSearchField : String := "_all"
  /-- The thresholds of automatic fuzziness. -/
  autoFuzziness : AutoFuzziness := {}
  deriving DecidableEq

namespace SearchRequest

/-- The fields to look for the keywords in. -/
def keywordFields (r : SearchRequest) (options : CompilerOptions) : List String :=
  match r.searchFields with
  | some (f :: fs) => (f :: fs).map SearchBridge.fieldName
  | _ => [options.defaultSearchField]

/-- How far terms may be from the keywords. -/
def keywordFuzziness (r : SearchRequest) (options : CompilerOptions) : Option Fuzziness :=
  if r.isFuzzy then
    some (match r.fuzziness with
      | some distance => .editDistance distance
      | none => .auto options.autoFuzziness)
  else none

/-- The query for the keywords, if there are any. -/
def keywordQuery? (r : SearchRequest) (options : CompilerOptions) : Option Query :=
  (r.keywords.filter fun k => !k.isEmpty).map fun keywords =>
    .clause (.multiMatch keywords (r.keywordFields options) options.analyzer .and
      (r.keywordFuzziness options))

/-- The sort clauses, if there are any criteria. -/
def sortClauses? (r : SearchRequest) : Option (List SortClause) :=
  match r.sorting with
  | [] => none
  | s => some (s.map SortField.toClause)

/-- The body of a request. The exact total is asked for when a single document is. -/
def compile (r : SearchRequest) (index : String) (catalog : Catalog)
    (options : CompilerOptions) : SearchBody where
  index := index
  query := r.keywordQuery? options
  postFilter := r.filter.bind (·.lower? catalog)
  aggregations := aggregations? catalog r.facets
  sort := r.sortClauses?
  start := some r.skip
  size := some r.take
  trackScores := some (r.sorting.any (·.isScore))
  trackTotalHits := if r.take = 1 then some true else none
  sourceIncludes := r.includeFields.filter fun fields => !fields.isEmpty

end SearchRequest

/-- The body of an optional request. -/
def SearchBody.ofRequest (r : Option SearchRequest) (index : String) (catalog : Catalog)
    (options : CompilerOptions) : SearchBody :=
  match r with
  | some r => r.compile index catalog options
  | none => { index := index }

end SearchBridge
