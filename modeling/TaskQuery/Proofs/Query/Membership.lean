import TaskQuery.Proofs.Value.Alike
/-!
# Membership and equality

`IN` looks for the value of a field among the listed ones, and `=` compares the value with a
single one. On a field with one value the first is a disjunction of the second. They part on
a field with a list: `=` looks for the literal among its items, `IN` for the list as a whole
among the literals, where no list is ever found.
-/

namespace TaskQuery.Query

variable {record : Entries String Value} {field : String} {op : Operator} {actual v first : Value}
  {items rest : List Value}

def comparisons (connective : Connective) (field : String) (op : Operator) (first : Value)
    (rest : List Value) : Expr :=
  rest.foldl (fun tree value => .logical connective tree (.comparison field op value))
    (.comparison field op first)

def anyEqual (field : String) (first : Value) (rest : List Value) : Expr :=
  comparisons .or field .eq first rest

def allDifferent (field : String) (first : Value) (rest : List Value) : Expr :=
  comparisons .and field .ne first rest

/-! ## Chains of comparisons -/

theorem selects_disjunction (tree : Expr) (rest : List Value) :
    selects record
        (rest.foldl (fun tree v => .logical .or tree (.comparison field op v)) tree) =
      (selects record tree || rest.any fun v => op.holds (fieldOf record field) v) := by
  induction rest generalizing tree with
  | nil => simp
  | cons v rest ih => rw [List.foldl_cons, ih, selects, selects, List.any_cons, Bool.or_assoc]

theorem selects_conjunction (tree : Expr) (rest : List Value) :
    selects record
        (rest.foldl (fun tree v => .logical .and tree (.comparison field op v)) tree) =
      (selects record tree && rest.all fun v => op.holds (fieldOf record field) v) := by
  induction rest generalizing tree with
  | nil => simp
  | cons v rest ih => rw [List.foldl_cons, ih, selects, selects, List.all_cons, Bool.and_assoc]

theorem selects_anyEqual : selects record (anyEqual field first rest) =
    (first :: rest).any (matchesValue (fieldOf record field)) := by
  rw [anyEqual, comparisons, selects_disjunction]
  rfl

theorem selects_allDifferent : selects record (allDifferent field first rest) =
    !selects record (anyEqual field first rest) := by
  rw [selects_anyEqual, allDifferent, comparisons, selects_conjunction, List.not_any_eq_all_not]
  rfl

theorem selects_within : selects record (.comparison field .within (.list (first :: rest))) =
    (first :: rest).any (fieldOf record field).equals :=
  rfl

theorem selects_notWithin :
    selects record (.comparison field .notWithin (.list (first :: rest))) =
      !selects record (.comparison field .within (.list (first :: rest))) :=
  rfl

/-! ## Fields with and without a list -/

theorem matchesValue_of_not_list (h : ∀ items, actual ≠ .list items) (v : Value) :
    matchesValue actual v = actual.equals v := by
  cases actual with
  | list items => exact absurd rfl (h items)
  | _ => rfl

theorem matchesValue_list (hv : v.IsLiteral) :
    matchesValue (.list items) v = hasItem items v := by
  cases v <;> first | rfl | exact hv.elim

theorem list_equals_literal (hv : v.IsLiteral) : (Value.list items).equals v = false := by
  cases v <;> first | rfl | exact hv.elim

section

variable (literals : ∀ v ∈ first :: rest, v.IsLiteral)

include literals

theorem selects_within_list (h : fieldOf record field = .list items) :
    selects record (.comparison field .within (.list (first :: rest))) = false := by
  rw [selects_within, h, List.any_eq_false]
  intro v hv
  simp [list_equals_literal (literals v hv)]

theorem within_eq_anyEqual_iff :
    selects record (.comparison field .within (.list (first :: rest))) =
        selects record (anyEqual field first rest) ↔
      ∀ items, fieldOf record field = .list items →
        ∀ v ∈ first :: rest, hasItem items v = false := by
  by_cases hlist : ∃ items, fieldOf record field = .list items
  · obtain ⟨items, hfield⟩ := hlist
    have hitem : ∀ v ∈ first :: rest, matchesValue (.list items) v = hasItem items v :=
      fun v hv => matchesValue_list (literals v hv)
    rw [selects_within_list literals hfield, selects_anyEqual, hfield, eq_comm,
      List.any_eq_false]
    constructor
    · intro h others hothers v hv
      obtain rfl := Value.list.inj hothers
      rw [← hitem v hv]
      exact Bool.eq_false_iff.2 (h v hv)
    · intro h v hv
      rw [hitem v hv]
      exact Bool.eq_false_iff.1 (h items rfl v hv)
  · have hsingle : ∀ items, fieldOf record field ≠ .list items := fun items h => hlist ⟨items, h⟩
    refine iff_of_true ?_ fun items h => absurd h (hsingle items)
    rw [selects_within, selects_anyEqual]
    exact List.any_congr rfl fun v => (matchesValue_of_not_list hsingle v).symm

theorem notWithin_eq_allDifferent_iff :
    selects record (.comparison field .notWithin (.list (first :: rest))) =
        selects record (allDifferent field first rest) ↔
      ∀ items, fieldOf record field = .list items →
        ∀ v ∈ first :: rest, hasItem items v = false := by
  rw [selects_notWithin, selects_allDifferent, Bool.not_inj_iff]
  exact within_eq_anyEqual_iff literals

end

/-- Membership is a disjunction of equalities, and its negation a conjunction of
inequalities, on exactly the records whose field has no list, or a list without any of the
literals. On a field with a list membership is never true, so its negation always is. -/
theorem within_matches_equality (record : Entries String Value) (field : String)
    (first : Value) (rest : List Value) (literals : ∀ v ∈ first :: rest, v.IsLiteral) :
    (evaluate (.comparison field .within (.list (first :: rest))) (.mapping record) =
        evaluate (anyEqual field first rest) (.mapping record) ↔
      ∀ items, fieldOf record field = .list items →
        ∀ v ∈ first :: rest, hasItem items v = false) ∧
    (evaluate (.comparison field .notWithin (.list (first :: rest))) (.mapping record) =
        evaluate (allDifferent field first rest) (.mapping record) ↔
      ∀ items, fieldOf record field = .list items →
        ∀ v ∈ first :: rest, hasItem items v = false) ∧
    ∀ items, fieldOf record field = .list items →
      evaluate (.comparison field .within (.list (first :: rest))) (.mapping record) = false ∧
      evaluate (.comparison field .notWithin (.list (first :: rest))) (.mapping record) =
        true := by
  refine ⟨within_eq_anyEqual_iff literals, notWithin_eq_allDifferent_iff literals, ?_⟩
  intro items h
  have hwithin : selects record (.comparison field .within (.list (first :: rest))) = false :=
    selects_within_list literals h
  refine ⟨hwithin, ?_⟩
  have hnot : selects record (.comparison field .notWithin (.list (first :: rest))) = true := by
    rw [selects_notWithin, hwithin, Bool.not_false]
  exact hnot

def taggedRecord : Entries String Value :=
  [("title", .text "Fix login"), ("tags", .list [.text "urgent", .text "bug"])]

theorem within_matches_equality_tagged :
    (∀ v ∈ [Value.text "docs", .null], v.IsLiteral) ∧
    evaluate (.comparison "tags" .within (.list [.text "docs", .null])) (.mapping taggedRecord) =
      evaluate (anyEqual "tags" (.text "docs") [.null]) (.mapping taggedRecord) := by
  have hliterals : ∀ v ∈ [Value.text "docs", .null], v.IsLiteral := by
    simp [Value.IsLiteral]
  refine ⟨hliterals, ?_⟩
  rw [(within_matches_equality taggedRecord "tags" (.text "docs") [.null] hliterals).1]
  intro items h
  obtain rfl := Value.list.inj h
  exact List.forall_mem_cons.2 ⟨rfl, List.forall_mem_singleton.2 rfl⟩

/-- A task with a tag equals it, and is not found among the tasks with one of some tags. -/
theorem tag_not_within :
    evaluate (.comparison "tags" .within (.list [.text "bug"])) (.mapping taggedRecord) = false ∧
    evaluate (anyEqual "tags" (.text "bug") []) (.mapping taggedRecord) = true ∧
    evaluate (.comparison "tags" .notWithin (.list [.text "bug"])) (.mapping taggedRecord) =
      true ∧
    evaluate (allDifferent "tags" (.text "bug") []) (.mapping taggedRecord) = false := by
  refine ⟨?_, ?_, ?_, ?_⟩ <;> rfl

end TaskQuery.Query
