import SearchBridge.Proofs.Query.Joining

/-!
# The clauses of a query

The clauses of a query from left to right. However the joins rewrite their operands, the clauses of
what they make are those of the operands, one after the other.

## Main definitions

* `Query.clauses` : the clauses of a query in order.

## Main results

* `Query.clauses_and`, `Query.clauses_or` : the clauses of joined queries.
-/

namespace SearchBridge

namespace Query

mutual

/-- The clauses of a query from left to right. -/
def clauses : Query → List Clause
  | .matchAll => []
  | .matchNone => []
  | .clause c => [c]
  | .bool must should mustNot _ => clausesList must ++ clausesList should ++ clausesList mustNot

/-- The clauses of the queries in a list. -/
def clausesList : List Query → List Clause
  | [] => []
  | q :: rest => clauses q ++ clausesList rest

end

theorem clausesList_eq_flatMap : (qs : List Query) → clausesList qs = qs.flatMap clauses
  | [] => rfl
  | q :: rest => by rw [clausesList, clausesList_eq_flatMap rest, List.flatMap_cons]

theorem clausesList_append (ps qs : List Query) :
    clausesList (ps ++ qs) = clausesList ps ++ clausesList qs := by
  simp only [clausesList_eq_flatMap, List.flatMap_append]

/-- Joined queries that both have to hold have the clauses of both. -/
theorem clauses_and (a b : Query) : (a.and b).clauses = a.clauses ++ b.clauses := by
  generalize hq : a.and b = q
  have hjoin : AndJoin a b q := hq ▸ andJoin_and a b
  cases hjoin with
  | dropLeft => rfl
  | dropRight => exact (List.append_nil _).symm
  | merge => simp only [clauses, clausesList, clausesList_append, List.append_nil]
  | push => simp only [clauses, clausesList, clausesList_append, List.append_nil]
  | pair => simp only [clauses, clausesList, List.append_nil]

/-- Joined queries of which one has to hold have the clauses of both. -/
theorem clauses_or (a b : Query) : (a.or b).clauses = a.clauses ++ b.clauses := by
  generalize hq : a.or b = q
  have hjoin : OrJoin a b q := hq ▸ orJoin_or a b
  cases hjoin with
  | dropLeft => rfl
  | dropRight => exact (List.append_nil _).symm
  | merge => simp only [clauses, clausesList, clausesList_append, List.append_nil, List.nil_append]
  | push => simp only [clauses, clausesList, clausesList_append, List.append_nil, List.nil_append]
  | pair => simp only [clauses, clausesList, List.append_nil, List.nil_append]

theorem clauses_negate (q : Query) : q.negate.clauses = q.clauses := by
  simp only [negate, clauses, clausesList, List.append_nil, List.nil_append]

/-- Joining queries to another one from left to right adds their clauses in order. -/
theorem clauses_foldl {join : Query → Query → Query}
    (hjoin : ∀ a b, (join a b).clauses = a.clauses ++ b.clauses) (qs : List Query) (q : Query) :
    (qs.foldl join q).clauses = q.clauses ++ clausesList qs := by
  induction qs generalizing q with
  | nil => exact (List.append_nil _).symm
  | cons p qs ih => rw [List.foldl_cons, ih, hjoin, clausesList, List.append_assoc]

end Query

end SearchBridge
