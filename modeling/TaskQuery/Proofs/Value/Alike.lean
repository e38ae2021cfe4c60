import Mathlib.Data.List.Perm.Subperm
import TaskQuery.Proofs.Entries
import TaskQuery.Query.Evaluate
import TaskQuery.Server.Capabilities
/-!
# Values that compare alike

Literals that are equal by meaning need not be the same value: an integer may equal a
double. No comparison that a server can make tells such values apart.
-/

namespace TaskQuery.Value

variable {a v w : Value}

/-- The values that a single token writes. -/
def IsLiteral : Value → Prop
  | .null | .int _ | .float _ | .text _ => True
  | .bool _ | .list _ | .mapping _ => False

/-- Equal values, and numbers of one size. -/
def Alike (v w : Value) : Prop :=
  v = w ∨ (v.isNumber = true ∧ w.isNumber = true ∧ v.point? = w.point?)

theorem Alike.refl (v : Value) : Alike v v :=
  Or.inl rfl

theorem Alike.symm (h : Alike v w) : Alike w v := by
  rcases h with rfl | ⟨hv, hw, hp⟩
  · exact .refl v
  · exact Or.inr ⟨hw, hv, hp.symm⟩

theorem Alike.trans {u : Value} (h : Alike u v) (k : Alike v w) : Alike u w := by
  rcases h with rfl | ⟨hu, hv, hp⟩
  · exact k
  · rcases k with rfl | ⟨-, hw, hq⟩
    · exact Or.inr ⟨hu, hv, hp⟩
    · exact Or.inr ⟨hu, hw, hp.trans hq⟩

theorem point?_eq_of_sameNumber (h : v.sameNumber w = true) : v.point? = w.point? := by
  unfold sameNumber at h
  split at h
  · rename_i p q hp hq
    rw [hp, hq, eq_of_beq h]
  · exact absurd h (by simp)

/-- Literals that are equal by meaning are alike. -/
theorem alike_of_same (hv : v.IsLiteral) (hw : w.IsLiteral) (h : v.same w = true) :
    Alike v w := by
  cases v <;> cases w <;>
    first
    | exact hv.elim
    | exact hw.elim
    | exact .refl .null
    | (rw [same, beq_iff_eq] at h; exact Or.inl (congrArg Value.text h))
    | (rw [same] at h; exact Or.inr ⟨rfl, rfl, point?_eq_of_sameNumber h⟩)
    | simp [same, sameNumber, point?] at h

/-! ## Comparisons -/

def numbersBy (rel : Extended → Extended → Bool) (a b : Value) : Bool :=
  a.isNumber && b.isNumber &&
    match a.point?, b.point? with
    | some p, some q => rel p q
    | _, _ => false

theorem before_of_isNumber (h : a.isNumber = true ∨ v.isNumber = true) :
    a.before v = numbersBy Extended.lt a v := by
  cases a <;> cases v <;> first | rfl | simp [isNumber] at h

theorem notAfter_of_isNumber (h : a.isNumber = true ∨ v.isNumber = true) :
    a.notAfter v = numbersBy Extended.le a v := by
  cases a <;> cases v <;> first | rfl | simp [isNumber] at h

theorem equals_of_isNumber (h : v.isNumber = true) :
    a.equals v = (a.isNumber && a.sameNumber v) := by
  cases v
  case int => cases a <;> rfl
  case float => cases a <;> rfl
  all_goals exact absurd h (by simp [isNumber])

theorem Alike.equals_right (a : Value) (h : Alike v w) : a.equals v = a.equals w := by
  rcases h with rfl | ⟨hv, hw, hp⟩
  · rfl
  · rw [equals_of_isNumber hv, equals_of_isNumber hw, sameNumber, sameNumber, hp]

theorem matchesValue_of_isNumber (h : v.isNumber = true) :
    Query.matchesValue a v =
      match a with
      | .list items => items.any fun item => item.isNumber && item.sameNumber v
      | _ => a.isNumber && a.sameNumber v := by
  cases v
  case int => cases a <;> simp only [Query.matchesValue, Query.hasItem, equals_of_isNumber h]
  case float => cases a <;> simp only [Query.matchesValue, Query.hasItem, equals_of_isNumber h]
  all_goals exact absurd h (by simp [isNumber])

/-- A comparison that a server can make does not tell alike values apart. -/
theorem Alike.holds_eq {op : Query.Operator} (hop : Server.isClientOperator op = false)
    (a : Value) (h : Alike v w) : op.holds a v = op.holds a w := by
  rcases h with rfl | ⟨hv, hw, hp⟩
  · rfl
  · have hright : ∀ rel, numbersBy rel a v = numbersBy rel a w := by
      intro rel
      rw [numbersBy, numbersBy, hv, hw, hp]
    have hleft : ∀ rel, numbersBy rel v a = numbersBy rel w a := by
      intro rel
      rw [numbersBy, numbersBy, hv, hw, hp]
    have hsame : ∀ b, sameNumber b v = sameNumber b w := by
      intro b
      rw [sameNumber, sameNumber, hp]
    cases op with
    | eq =>
        rw [Query.Operator.holds, Query.Operator.holds, matchesValue_of_isNumber hv,
          matchesValue_of_isNumber hw]
        simp only [hsame]
    | gt =>
        simp only [Query.Operator.holds, before_of_isNumber (Or.inl hv),
          before_of_isNumber (Or.inl hw), hleft]
    | ge =>
        simp only [Query.Operator.holds, notAfter_of_isNumber (Or.inl hv),
          notAfter_of_isNumber (Or.inl hw), hleft]
    | lt =>
        simp only [Query.Operator.holds, before_of_isNumber (Or.inr hv),
          before_of_isNumber (Or.inr hw), hright]
    | le =>
        simp only [Query.Operator.holds, notAfter_of_isNumber (Or.inr hv),
          notAfter_of_isNumber (Or.inr hw), hright]
    | _ => exact absurd hop (by decide)

/-! ## Mappings -/

theorem sameEntries_iff {xs ys : Entries String Value} :
    sameEntries xs ys = true ↔
      ∀ entry ∈ xs, ∃ y, ys.get? entry.1 = some y ∧ entry.2.same y = true := by
  induction xs with
  | nil => simp [sameEntries]
  | cons entry rest ih =>
      obtain ⟨key, x⟩ := entry
      rw [sameEntries, Bool.and_eq_true, ih, List.forall_mem_cons]
      cases ys.get? key <;> simp

theorem get?_of_same_mapping {xs ys : Entries String Value}
    (h : same (.mapping xs) (.mapping ys) = true) {key : String} {x : Value}
    (hx : xs.get? key = some x) : ∃ y, ys.get? key = some y ∧ x.same y = true := by
  rw [same, Bool.and_eq_true] at h
  exact sameEntries_iff.1 h.2 _ (Entries.mem_of_get? hx)

theorem get?_of_same_mapping_right {xs ys : Entries String Value}
    (h : same (.mapping xs) (.mapping ys) = true) (hd : xs.keys.Nodup) {key : String}
    {y : Value} (hy : ys.get? key = some y) :
    ∃ x, xs.get? key = some x ∧ x.same y = true := by
  have hsub : xs.keys ⊆ ys.keys := by
    intro k hk
    obtain ⟨x, hx⟩ := Entries.mem_keys_iff.1 hk
    obtain ⟨y', hy', -⟩ := get?_of_same_mapping h hx
    exact Entries.mem_keys_iff.2 ⟨y', hy'⟩
  have hlength : ys.keys.length ≤ xs.keys.length := by
    rw [same, Bool.and_eq_true, beq_iff_eq] at h
    simp only [Entries.keys, List.length_map]
    omega
  have hperm := (List.subperm_of_subset hd hsub).perm_of_length_le hlength
  obtain ⟨x, hx⟩ := Entries.mem_keys_iff.1 (hperm.mem_iff.2 (Entries.mem_keys_iff.2 ⟨y, hy⟩))
  obtain ⟨y', hy', hsame⟩ := get?_of_same_mapping h hx
  obtain rfl := Option.some.inj (hy'.symm.trans hy)
  exact ⟨x, hx, hsame⟩

end TaskQuery.Value
