import Mathlib.Order.Basic
import SearchBridge.Proofs.Query.Joining

/-!
# Truth of queries on a document

A query is true or false of a document by the engine's rules: a range clause compares the value of
its field with the bounds that are present, any other clause has a truth of its own, and a boolean
query counts how many of its optional queries hold. A boolean query that sets no minimum asks for
one optional query if it has some and no required ones, and for none otherwise.

What the combinators do to the truth of queries does not depend on where the truth of clauses comes
from. So queries are evaluated for any truth of their clauses, and their truth on a document is that
for the truth of clauses on the document.

## Main definitions

* `Query.eval` : the truth of a query from that of its clauses.
* `Evidence` : what can be seen of one document.
* `Query.holds` : whether a query is true of a document.

## Main results

* `Query.eval_bool` : the truth of a boolean query.
* `Query.eval_required`, `Query.eval_optional` : boolean queries with one list.
* `Query.eval_conjunction`, `Query.eval_disjunction` : the boolean queries of filters.
* `Query.eval_negate` : negation is exact.
-/

namespace SearchBridge

/-- What can be seen of one document: the truth of each clause that is not a range clause, the value
of each field, and the value that the text of a bound stands for. -/
structure Evidence (α : Type*) where
  clause : Clause → Bool
  value : String → α
  bound : String → String → α

variable {α : Type*} [Preorder α] [DecidableLE α] [DecidableLT α] (e : Evidence α)

namespace Evidence

/-- The value of a field satisfies every bound that is present. -/
def within (field : String) (b : RangeBounds) : Bool :=
  b.gt.all (fun s => e.bound field s < e.value field) &&
    b.gte.all (fun s => e.bound field s ≤ e.value field) &&
    b.lt.all (fun s => e.value field < e.bound field s) &&
    b.lte.all (fun s => e.value field ≤ e.bound field s)

/-- The truth of a clause. -/
def satisfies : Clause → Bool
  | .range field bounds => e.within field bounds
  | c => e.clause c

end Evidence

namespace Query

/-- The number of optional queries that have to hold. -/
def threshold (must should : List Query) : Option UInt32 → Nat
  | some minimum => minimum.toNat
  | none => if must.isEmpty && !should.isEmpty then 1 else 0

/-! ### Truth from the truth of clauses -/

section Eval

variable (v : Clause → Bool)

mutual

/-- The truth of a query if each clause has a truth of its own. -/
def eval (v : Clause → Bool) : Query → Bool
  | .matchAll => true
  | .matchNone => false
  | .clause c => v c
  | .bool must should mustNot minimum =>
    (evalList v must).all id && (evalList v mustNot).all not &&
      decide (threshold must should minimum ≤ (evalList v should).count true)

/-- The truth of each query. -/
def evalList (v : Clause → Bool) : List Query → List Bool
  | [] => []
  | q :: rest => eval v q :: evalList v rest

end

theorem evalList_eq_map (qs : List Query) : evalList v qs = qs.map (eval v) := by
  induction qs with
  | nil => rfl
  | cons q rest ih => rw [evalList, ih, List.map_cons]

@[simp] theorem eval_matchAll : matchAll.eval v = true := rfl

@[simp] theorem eval_matchNone : matchNone.eval v = false := rfl

/-- A boolean query is true if all required queries are, no excluded one is, and enough optional
ones are. -/
theorem eval_bool (must should mustNot : List Query) (minimum : Option UInt32) :
    (Query.bool must should mustNot minimum).eval v =
      (must.all (eval v) && mustNot.all (fun q => !q.eval v) &&
        decide (threshold must should minimum ≤ should.countP (eval v))) := by
  have hcount : (fun b => b == true) ∘ eval v = eval v := funext fun q => by simp
  simp only [eval, evalList_eq_map, List.all_map, List.count_eq_countP, List.countP_map, hcount]
  rfl

/-- Required queries alone are true if all of them are and the minimum asks for no optional one. -/
theorem eval_required (must : List Query) (minimum : Option UInt32) :
    (Query.bool must [] [] minimum).eval v =
      (must.all (eval v) && decide (threshold must [] minimum = 0)) := by
  rw [eval_bool]
  simp

/-- Optional queries alone are true if enough of them are. -/
theorem eval_optional (should : List Query) (minimum : Option UInt32) :
    (Query.bool [] should [] minimum).eval v =
      decide (threshold [] should minimum ≤ should.countP (eval v)) := by
  rw [eval_bool]
  simp

/-- A conjunction without minimum is true if its queries are. -/
theorem eval_conjunction (must : List Query) :
    (Query.bool must [] [] none).eval v = must.all (eval v) := by
  rw [eval_required]
  simp [threshold]

/-- A disjunction with the minimum one is true if one of its queries is. -/
theorem eval_disjunction (should : List Query) :
    (Query.bool [] should [] (some 1)).eval v = should.any (eval v) := by
  rw [eval_optional]
  have hone : (1 : UInt32).toNat = 1 := rfl
  simp only [threshold, hone, Nat.one_le_iff_ne_zero, ← Nat.pos_iff_ne_zero, List.countP_pos_iff,
    ← List.any_eq_true, Bool.decide_eq_true]

/-- The negation of a query is true where the query is not. -/
theorem eval_negate (q : Query) : q.negate.eval v = !q.eval v := by
  rw [negate, eval_bool]
  simp [threshold]

end Eval

/-! ### Truth on a document -/

/-- Whether a query is true of a document: its truth if the clauses that the evidence satisfies are
true. -/
def holds : Query → Bool := eval e.satisfies

@[simp] theorem holds_matchAll : matchAll.holds e = true := rfl

@[simp] theorem holds_matchNone : matchNone.holds e = false := rfl

/-- A conjunction without minimum holds if its queries do. -/
theorem holds_conjunction (must : List Query) :
    (Query.bool must [] [] none).holds e = must.all (holds e) :=
  eval_conjunction e.satisfies must

/-- The negation of a query holds where the query does not. -/
@[simp] theorem holds_negate (q : Query) : q.negate.holds e = !q.holds e :=
  eval_negate e.satisfies q

end Query

end SearchBridge
