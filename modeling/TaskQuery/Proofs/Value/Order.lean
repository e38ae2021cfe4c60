import TaskQuery.Proofs.Value.Alike
/-!
# The orders of values

A value is not after another one exactly if it comes before it, or the two have an order and
are equal. So the strict comparisons differ from the loose ones at equal values alone.
-/

namespace TaskQuery.Value

open Query (Operator)

theorem numbersBy_le (a b : Value) :
    numbersBy Extended.le a b =
      (numbersBy Extended.lt a b || (a.isNumber && b.isNumber && a.sameNumber b)) := by
  unfold numbersBy sameNumber Extended.le
  cases a.isNumber <;> cases b.isNumber <;> cases a.point? <;> cases b.point? <;>
    simp [Bool.or_comm]

theorem comparable_equals_of_isNumber {a b : Value}
    (h : a.isNumber = true ∨ b.isNumber = true) :
    (a.comparable b && a.equals b) = (a.isNumber && b.isNumber && a.sameNumber b) := by
  cases a <;> cases b <;> first | rfl | simp [isNumber] at h

theorem text_notAfter (s t : String) :
    notAfter (.text s) (.text t) = (before (.text s) (.text t) || equals (.text s) (.text t)) := by
  rw [Bool.eq_iff_iff]
  simp [notAfter, before, equals, isBool, same, Std.le_iff_lt_or_eq]

theorem notAfter_eq_or (a b : Value) :
    a.notAfter b = (a.before b || (a.comparable b && a.equals b)) := by
  by_cases h : a.isNumber = true ∨ b.isNumber = true
  · rw [notAfter_of_isNumber h, before_of_isNumber h, numbersBy_le,
      comparable_equals_of_isNumber h]
  · cases a with
    | text s =>
        cases b with
        | text t => exact text_notAfter s t
        | _ => rfl
    | _ => first | exact absurd (Or.inl rfl) h | (cases b <;> rfl)

theorem sameNumber_comm (a b : Value) : a.sameNumber b = b.sameNumber a := by
  unfold sameNumber
  cases a.point? with
  | none => cases b.point? <;> rfl
  | some p =>
      cases b.point? with
      | none => rfl
      | some q => exact BEq.comm

theorem equals_comm_of_comparable {a b : Value} (h : a.comparable b = true) :
    a.equals b = b.equals a := by
  rw [comparable, Bool.or_eq_true, Bool.and_eq_true, Bool.and_eq_true] at h
  rcases h with ⟨ha, hb⟩ | ⟨ha, hb⟩
  · rw [equals_of_isNumber ha, equals_of_isNumber hb, ha, hb, sameNumber_comm]
  · cases a with
    | text s =>
        cases b with
        | text t => simp [equals, isBool, same, BEq.comm (a := s)]
        | _ => exact absurd hb (by simp [isText])
    | _ => exact absurd ha (by simp [isText])

/-! ## Strict and loose comparisons -/

inductive Bounds : Operator → Operator → Prop where
  | below : Bounds .lt .le
  | above : Bounds .gt .ge

theorem loose_of_strict {strict loose : Operator} (h : Bounds strict loose) {a v : Value}
    (hs : strict.holds a v = true) : loose.holds a v = true := by
  cases h with
  | below => exact (notAfter_eq_or a v).trans (by rw [Bool.or_eq_true]; exact Or.inl hs)
  | above => exact (notAfter_eq_or v a).trans (by rw [Bool.or_eq_true]; exact Or.inl hs)

theorem strict_of_loose {strict loose : Operator} (h : Bounds strict loose) {a v : Value}
    (hl : loose.holds a v = true) (hne : a.equals v = false) : strict.holds a v = true := by
  cases h with
  | below =>
      have hor : (a.before v || (a.comparable v && a.equals v)) = true :=
        (notAfter_eq_or a v).symm.trans hl
      simpa [hne, Operator.holds] using hor
  | above =>
      have hor : (v.before a || (v.comparable a && v.equals a)) = true :=
        (notAfter_eq_or v a).symm.trans hl
      have hfalse : (v.comparable a && v.equals a) = false := by
        cases hc : v.comparable a with
        | false => rfl
        | true => rw [equals_comm_of_comparable hc, hne, Bool.and_false]
      simpa [hfalse, Operator.holds] using hor

end TaskQuery.Value
