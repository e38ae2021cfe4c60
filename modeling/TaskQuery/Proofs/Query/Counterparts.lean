import TaskQuery.Proofs.Query.Membership
import TaskQuery.Proofs.Value.Order
/-!
# Comparisons and their counterparts

Some operators say with one comparison what others say with several: a range is two bounds,
a negative operator is a negation, a loose bound is a strict one or equality. Anywhere in a
tree, a comparison and its counterpart can stand for each other. The bounds need a field with
a single value, since equality looks into a list and order does not; on a field with a list,
`CONTAINS` looks into it as equality does.
-/

namespace TaskQuery.Value

variable {a b v low high : Value}

/-! ## Values that have an order -/

theorem comparable_comm (a b : Value) : a.comparable b = b.comparable a := by
  rw [comparable, comparable, Bool.and_comm a.isNumber, Bool.and_comm a.isText]

theorem comparable_of_notAfter (h : a.notAfter b = true) : a.comparable b = true := by
  rw [notAfter_eq_or, Bool.or_eq_true, Bool.and_eq_true] at h
  rcases h with hbefore | ⟨hcomparable, -⟩
  · cases a <;> cases b <;>
      first
      | rfl
      | exact absurd hbefore (by simp [before, isNumber])
  · exact hcomparable

/-- Only values of one kind are equal to a literal, if it is not null. -/
theorem comparable_of_equals (hv : v.IsLiteral) (hnull : v ≠ .null) (h : a.equals v = true) :
    a.comparable v = true := by
  cases v with
  | null => exact absurd rfl hnull
  | text s =>
      cases a with
      | text t => rfl
      | _ => exact absurd h (by simp [equals, isBool, same, sameNumber, point?])
  | int n =>
      rw [equals_of_isNumber rfl, Bool.and_eq_true] at h
      rw [comparable, h.1]
      rfl
  | float d =>
      rw [equals_of_isNumber rfl, Bool.and_eq_true] at h
      rw [comparable, h.1]
      rfl
  | _ => exact hv.elim

/-- A literal that is not null is a loose bound of the values beyond it and of those equal
to it. -/
theorem notAfter_literal (hv : v.IsLiteral) (hnull : v ≠ .null) (a : Value) :
    a.notAfter v = (a.before v || a.equals v) := by
  rw [notAfter_eq_or]
  cases h : a.equals v with
  | false => rw [Bool.and_false]
  | true => rw [comparable_of_equals hv hnull h, Bool.and_true]

theorem literal_notAfter (hv : v.IsLiteral) (hnull : v ≠ .null) (a : Value) :
    v.notAfter a = (v.before a || a.equals v) := by
  rw [notAfter_eq_or, comparable_comm]
  cases hc : a.comparable v with
  | true => rw [equals_comm_of_comparable hc, Bool.true_and]
  | false =>
      have hdiffers : a.equals v = false := by
        cases hequal : a.equals v with
        | false => rfl
        | true => exact (comparable_of_equals hv hnull hequal).symm.trans hc
      rw [hdiffers, Bool.false_and]

end TaskQuery.Value

namespace TaskQuery.Query

open Value

variable {record : Entries String Value} {tree other : Expr} {v : Value}

/-! ## Places in a tree -/

/-- A tree with one place left open. -/
inductive Context where
  | hole
  | left (connective : Connective) (context : Context) (other : Expr)
  | right (connective : Connective) (other : Expr) (context : Context)
  | group (context : Context)

def Context.fill : Context → Expr → Expr
  | .hole, tree => tree
  | .left connective context other, tree => .logical connective (context.fill tree) other
  | .right connective other context, tree => .logical connective other (context.fill tree)
  | .group context, tree => .group (context.fill tree)

theorem selects_fill (h : selects record tree = selects record other) (context : Context) :
    selects record (context.fill tree) = selects record (context.fill other) := by
  induction context with
  | hole => exact h
  | left connective context beside ih =>
      cases connective <;> simp only [Context.fill, selects, ih]
  | right connective beside context ih =>
      cases connective <;> simp only [Context.fill, selects, ih]
  | group context ih => exact ih

/-! ## Counterparts -/

def HoldsList (record : Value) (field : String) : Prop :=
  ∃ entries items, record = .mapping entries ∧ fieldOf entries field = .list items

/-- A comparison, and the tree that says the same about a record with other operators. -/
inductive Counterpart (record : Value) : Expr → Expr → Prop where
  /-- A range is both its bounds. -/
  | between (field : String) (low high : Value) :
      Counterpart record (.comparison field .between (.list [low, high]))
        (.and (.comparison field .ge low) (.comparison field .le high))
  /-- Inequality is no equality. -/
  | ne (field : String) (v : Value) :
      Counterpart record (.comparison field .ne v) (.not (.comparison field .eq v))
  /-- `NOT IN` is no membership. -/
  | notWithin (field : String) (items : List Value) :
      Counterpart record (.comparison field .notWithin (.list items))
        (.not (.comparison field .within (.list items)))
  /-- `IS NOT NULL` is no null test. -/
  | isNotNull (field : String) (v : Value) :
      Counterpart record (.comparison field .isNotNull v) (.not (.comparison field .isNull v))
  /-- On a single value, a loose lower bound is a strict one or equality. -/
  | ge (field : String) {v : Value} (literal : v.IsLiteral) (some_value : v ≠ .null)
      (single : ¬HoldsList record field) :
      Counterpart record (.comparison field .ge v)
        (.or (.comparison field .gt v) (.comparison field .eq v))
  /-- On a single value, a loose upper bound is a strict one or equality. -/
  | le (field : String) {v : Value} (literal : v.IsLiteral) (some_value : v ≠ .null)
      (single : ¬HoldsList record field) :
      Counterpart record (.comparison field .le v)
        (.or (.comparison field .lt v) (.comparison field .eq v))
  /-- On a list, `CONTAINS` is equality. -/
  | contains (field : String) {v : Value} (literal : v.IsLiteral)
      (list : HoldsList record field) :
      Counterpart record (.comparison field .contains v) (.comparison field .eq v)

theorem isBetween_eq (a low high : Value) :
    isBetween a (.list [low, high]) = (low.notAfter a && a.notAfter high) := by
  rw [isBetween]
  cases hlow : low.notAfter a with
  | false => simp
  | true =>
      cases hhigh : a.notAfter high with
      | false => simp
      | true =>
          rw [comparable_comm a low, comparable_of_notAfter hlow, comparable_of_notAfter hhigh]
          rfl

theorem matchesValue_single {field : String} (h : ¬HoldsList (.mapping record) field) (v : Value) :
    matchesValue (fieldOf record field) v = (fieldOf record field).equals v :=
  matchesValue_of_not_list (fun items hitems => h ⟨record, items, rfl, hitems⟩) v

theorem containsValue_list {field : String} (hv : v.IsLiteral)
    (h : HoldsList (.mapping record) field) :
    containsValue (fieldOf record field) v = matchesValue (fieldOf record field) v := by
  obtain ⟨entries, items, hentries, hitems⟩ := h
  obtain rfl := Value.mapping.inj hentries
  rw [hitems, matchesValue_list hv]
  rfl

/-- The cases are the pairs of operators; each is a fact about the value of the field. -/
theorem Counterpart.selects (h : Counterpart (.mapping record) tree other) :
    selects record tree = selects record other := by
  cases h with
  | between field low high => exact isBetween_eq (fieldOf record field) low high
  | ne field v => rfl
  | notWithin field items => rfl
  | isNotNull field v => rfl
  | ge field literal some_value single =>
      have hmatches := matchesValue_single single
      simp only [Query.selects, Expr.or, Operator.holds, hmatches]
      exact literal_notAfter literal some_value (fieldOf record field)
  | le field literal some_value single =>
      have hmatches := matchesValue_single single
      simp only [Query.selects, Expr.or, Operator.holds, hmatches]
      exact notAfter_literal literal some_value (fieldOf record field)
  | contains field literal list => exact containsValue_list literal list

/-- Whatever tree a comparison stands in, its counterpart can stand in its place: on every
record, of whatever kind, the whole tree has the same value. -/
theorem evaluate_counterpart (context : Context) (record : Value) (comparison counterpart : Expr)
    (same : Counterpart record comparison counterpart) :
    evaluate (context.fill comparison) record = evaluate (context.fill counterpart) record := by
  cases record with
  | mapping entries => exact selects_fill same.selects context
  | _ => rfl

def endlessTask : Value :=
  .mapping [("points", .float (.infinite false)), ("tags", .list [.text "bug"])]

/-- `NOT (points >= 2 AND tags IS NULL)` without the loose bound. -/
theorem evaluate_counterpart_points :
    Counterpart endlessTask (.comparison "points" .ge (.int 2))
      (.or (.comparison "points" .gt (.int 2)) (.comparison "points" .eq (.int 2))) ∧
    evaluate (.not (.group (.and (.comparison "points" .ge (.int 2))
        (.comparison "tags" .isNull .null)))) endlessTask =
      evaluate (.not (.group (.and
        (.or (.comparison "points" .gt (.int 2)) (.comparison "points" .eq (.int 2)))
        (.comparison "tags" .isNull .null)))) endlessTask := by
  have same : Counterpart endlessTask (.comparison "points" .ge (.int 2))
      (.or (.comparison "points" .gt (.int 2)) (.comparison "points" .eq (.int 2))) := by
    refine .ge "points" trivial (by simp) ?_
    rintro ⟨entries, items, hentries, hitems⟩
    obtain rfl := Value.mapping.inj hentries
    cases hitems
  let context : Context :=
    .right .not .absent (.group (.left .and .hole (.comparison "tags" .isNull .null)))
  exact ⟨same, evaluate_counterpart context endlessTask _ _ same⟩

end TaskQuery.Query
