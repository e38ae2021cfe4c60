import TaskQuery.Server.Compile
/-!
# Conjuncts

A query as the list of the parts that `AND` joins. The walk over a tree is a walk over its
conjuncts, and a record is selected if every conjunct selects it.
-/

namespace TaskQuery.Server

open Query (Expr Operator evaluate selects)

/-- The parts that `AND` joins, from left to right, without the groups around them. -/
def conjuncts : Expr → List Expr
  | .absent => [.absent]
  | .comparison field op value => [.comparison field op value]
  | .logical .and left right => conjuncts left ++ conjuncts right
  | .logical .or left right => [.logical .or left right]
  | .logical .not left right => [.logical .not left right]
  | .group inner => conjuncts inner

def Walk.visitAll (c : Capabilities) (w : Walk) : List Expr → Bool × Walk
  | [] => (true, w)
  | part :: rest =>
      let (ok, after) := w.visit c part
      let (restOk, last) := after.visitAll c rest
      (ok && restOk, last)

namespace Walk

variable (c : Capabilities)

theorem visitAll_append (w : Walk) (a b : List Expr) :
    w.visitAll c (a ++ b) =
      ((w.visitAll c a).1 && ((w.visitAll c a).2.visitAll c b).1,
        ((w.visitAll c a).2.visitAll c b).2) := by
  induction a generalizing w with
  | nil => simp [visitAll]
  | cons part rest ih => simp [visitAll, ih, Bool.and_assoc]

theorem visitAll_single (w : Walk) (part : Expr) : w.visitAll c [part] = w.visit c part := by
  simp [visitAll]

theorem visit_eq_visitAll (w : Walk) (query : Expr) :
    w.visit c query = w.visitAll c (conjuncts query) := by
  induction query generalizing w with
  | absent => rw [conjuncts, visitAll_single]
  | comparison field op value => rw [conjuncts, visitAll_single]
  | logical connective left right ihl ihr =>
      cases connective with
      | and => simp [conjuncts, visit, visitAll_append, ← ihl, ← ihr]
      | or => rw [conjuncts, visitAll_single]
      | not => rw [conjuncts, visitAll_single]
  | group inner ih => exact ih w

end Walk

theorem selects_eq_all (record : Entries String Value) (query : Expr) :
    selects record query = (conjuncts query).all (selects record) := by
  induction query with
  | absent => simp [conjuncts]
  | comparison field op value => simp [conjuncts]
  | logical connective left right ihl ihr =>
      cases connective with
      | and => rw [selects, conjuncts, List.all_append, ihl, ihr]
      | or => simp [conjuncts]
      | not => simp [conjuncts]
  | group inner ih => exact ih

end TaskQuery.Server
