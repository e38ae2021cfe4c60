import Mathlib.Order.Bounds.Basic
import TaskQuery.Proofs.Text.Suffixes
import TaskQuery.Text.EditDistance
/-!
# The edit distance counts edits

A script is a sequence of insertions, deletions and substitutions of single characters,
anywhere in a text and in any order. A shortest one never needs to look back: it can be put
in order, from the left end of both texts to the right. The rows of distances count such
ordered readings, so their answer is the length of a shortest script.
-/

namespace TaskQuery.Text

/-- One insertion, deletion or substitution of a character, in front or later. -/
inductive Edit : List Char → List Char → Prop where
  | insert (c : Char) (a : List Char) : Edit a (c :: a)
  | delete (c : Char) (a : List Char) : Edit (c :: a) a
  | substitute (c d : Char) (a : List Char) : Edit (c :: a) (d :: a)
  | later (c : Char) {a b : List Char} (h : Edit a b) : Edit (c :: a) (c :: b)

/-- A sequence of edits, with their number, that turns one text into another. -/
inductive Script : Nat → List Char → List Char → Prop where
  | done (a : List Char) : Script 0 a a
  | edit {n : Nat} {a b c : List Char} (h : Edit a b) (rest : Script n b c) : Script (n + 1) a c

variable {n m : Nat} {a b c : List Char} {x y : Char}

/-! ## Scripts -/

theorem Edit.symm (h : Edit a b) : Edit b a := by
  induction h with
  | insert c a => exact .delete c a
  | delete c a => exact .insert c a
  | substitute c d a => exact .substitute d c a
  | later c h ih => exact .later c ih

theorem Edit.length_le (h : Edit a b) : a.length ≤ b.length + 1 := by
  induction h with
  | insert c a => simp only [List.length_cons]; omega
  | delete c a => simp
  | substitute c d a => simp
  | later c h ih => simp only [List.length_cons]; omega

namespace Script

theorem trans (h : Script n a b) (k : Script m b c) : Script (n + m) a c := by
  induction h with
  | done a => rwa [Nat.zero_add]
  | edit h rest ih =>
      rw [Nat.add_right_comm]
      exact .edit h (ih k)

theorem symm (h : Script n a b) : Script n b a := by
  induction h with
  | done a => exact .done a
  | edit h rest ih => exact ih.trans (.edit h.symm (.done _))

theorem cons (x : Char) (h : Script n a b) : Script n (x :: a) (x :: b) := by
  induction h with
  | done a => exact .done _
  | edit h rest ih => exact .edit (.later x h) ih

theorem length_le (h : Script n a b) : a.length ≤ b.length + n := by
  induction h with
  | done a => exact Nat.le_refl _
  | edit h rest ih =>
      have hstep := h.length_le
      omega

theorem eq_of_zero (h : Script 0 a b) : a = b := by
  cases h
  rfl

end Script

/-! ## Readings from left to right -/

/-- Two texts that can be read side by side from left to right, with at most a number of
characters kept out or exchanged on the way. -/
inductive Near : Nat → List Char → List Char → Prop where
  | nil (n : Nat) : Near n [] []
  | keep (x : Char) {n : Nat} {a b : List Char} (h : Near n a b) : Near n (x :: a) (x :: b)
  | substitute (x y : Char) {n : Nat} {a b : List Char} (h : Near n a b) :
      Near (n + 1) (x :: a) (y :: b)
  | insert (y : Char) {n : Nat} {a b : List Char} (h : Near n a b) : Near (n + 1) a (y :: b)
  | delete (x : Char) {n : Nat} {a b : List Char} (h : Near n a b) : Near (n + 1) (x :: a) b

namespace Near

theorem refl (n : Nat) (a : List Char) : Near n a a := by
  induction a with
  | nil => exact .nil n
  | cons x a ih => exact .keep x ih

theorem symm (h : Near n a b) : Near n b a := by
  induction h with
  | nil n => exact .nil n
  | keep x h ih => exact .keep x ih
  | substitute x y h ih => exact .substitute y x ih
  | insert y h ih => exact .delete y ih
  | delete x h ih => exact .insert x ih

theorem succ (h : Near n a b) : Near (n + 1) a b := by
  induction h with
  | nil n => exact .nil (n + 1)
  | keep x h ih => exact .keep x ih
  | substitute x y h ih => exact .substitute x y ih
  | insert y h ih => exact .insert y ih
  | delete x h ih => exact .delete x ih

theorem mono (h : Near n a b) (hle : n ≤ m) : Near m a b := by
  induction hle with
  | refl => exact h
  | step hle ih => exact ih.succ

/-- A change in front of the first text costs one more, if it does wherever that front is
kept, exchanged or left out. -/
theorem change_head {front : List Char} (h : Near n (x :: a) c)
    (kept : ∀ k rest, Near k a rest → Near (k + 1) front (x :: rest))
    (substituted : ∀ k y rest, Near k a rest → Near (k + 2) front (y :: rest))
    (deleted : ∀ k rest, Near k a rest → Near (k + 2) front rest) : Near (n + 1) front c := by
  generalize hs : x :: a = s at h
  induction h with
  | nil n => cases hs
  | keep x' h ih =>
      obtain ⟨rfl, rfl⟩ := List.cons.inj hs
      exact kept _ _ h
  | substitute x' y h ih =>
      obtain ⟨rfl, rfl⟩ := List.cons.inj hs
      exact substituted _ y _ h
  | insert y h ih => exact .insert y (ih hs)
  | delete x' h ih =>
      obtain ⟨rfl, rfl⟩ := List.cons.inj hs
      exact deleted _ _ h

theorem drop_left (h : Near n (x :: a) b) : Near (n + 1) a b :=
  h.change_head (fun _ _ h => .insert x h) (fun _ y _ h => (h.insert y).succ)
    (fun _ _ h => h.succ.succ)

theorem drop_right (h : Near n a (y :: b)) : Near (n + 1) a b :=
  h.symm.drop_left.symm

theorem before (h : Edit a b) (hn : Near n b c) : Near (n + 1) a c := by
  induction h generalizing n c with
  | insert x a => exact hn.drop_left
  | delete x a => exact .delete x hn
  | substitute x y a =>
      exact hn.change_head (fun _ _ h => .substitute x y h)
        (fun _ z _ h => (h.substitute x z).succ) (fun _ _ h => (h.delete x).succ)
  | later x h ih =>
      exact hn.change_head (fun _ _ h => .keep x (ih h))
        (fun _ z _ h => .substitute x z (ih h)) (fun _ _ h => .delete x (ih h))

theorem of_script (h : Script n a b) : Near n a b := by
  induction h with
  | done a => exact .refl 0 a
  | edit h rest ih => exact before h ih

theorem exists_script (h : Near n a b) : ∃ k ≤ n, Script k a b := by
  induction h with
  | nil n => exact ⟨0, Nat.zero_le n, .done []⟩
  | keep x h ih =>
      obtain ⟨k, hk, hs⟩ := ih
      exact ⟨k, hk, hs.cons x⟩
  | @substitute x y n a b h ih =>
      obtain ⟨k, hk, hs⟩ := ih
      exact ⟨k + 1, Nat.succ_le_succ hk, .edit (.substitute x y a) (hs.cons y)⟩
  | @insert y n a b h ih =>
      obtain ⟨k, hk, hs⟩ := ih
      exact ⟨k + 1, Nat.succ_le_succ hk, .edit (.insert y a) (hs.cons y)⟩
  | @delete x n a b h ih =>
      obtain ⟨k, hk, hs⟩ := ih
      exact ⟨k + 1, Nat.succ_le_succ hk, .edit (.delete x a) hs⟩

theorem length_le (h : Near n a b) : a.length ≤ b.length + n := by
  obtain ⟨k, hk, hs⟩ := h.exists_script
  have hlength := hs.length_le
  omega

theorem of_lengths (a b : List Char) : Near (max a.length b.length) a b := by
  induction a generalizing b with
  | nil =>
      rw [List.length_nil, Nat.zero_max]
      induction b with
      | nil => exact .nil 0
      | cons y b ih => exact .insert y ih
  | cons x a ih =>
      cases b with
      | nil =>
          have h := (ih []).delete x
          simpa using h
      | cons y b =>
          rw [List.length_cons, List.length_cons, Nat.add_max_add_right]
          exact (ih b).substitute x y

/-! ### The first characters -/

theorem nil_right_iff : Near n a [] ↔ a.length ≤ n := by
  constructor
  · intro h
    simpa using h.length_le
  · intro h
    exact (of_lengths a []).mono (by simpa using h)

/-- Equal first characters may be kept: nothing else costs less. -/
theorem cons_self_iff : Near n (x :: a) (x :: b) ↔ Near n a b := by
  constructor
  · intro h
    cases h with
    | keep _ h => exact h
    | substitute _ _ h => exact h.succ
    | insert _ h => exact h.drop_left
    | delete _ h => exact h.drop_right
  · exact .keep x

theorem cons_succ_iff (hne : x ≠ y) : Near (n + 1) (x :: a) (y :: b) ↔
    Near n a b ∨ Near n a (y :: b) ∨ Near n (x :: a) b := by
  constructor
  · intro h
    cases h with
    | keep => exact absurd rfl hne
    | substitute _ _ h => exact Or.inl h
    | insert _ h => exact Or.inr (Or.inr h)
    | delete _ h => exact Or.inr (Or.inl h)
  · rintro (h | h | h)
    · exact .substitute x y h
    · exact .delete x h
    · exact .insert y h

theorem not_zero_cons (hne : x ≠ y) : ¬ Near 0 (x :: a) (y :: b) := by
  intro h
  cases h with
  | keep => exact hne rfl

end Near

/-! ## Rows of distances -/

def Measures (a b : List Char) (distance : Nat) : Prop :=
  ∀ n, Near n a b ↔ distance ≤ n

namespace Measures

variable {d l r : Nat} {row : List Nat}

theorem nil_left (b : List Char) : Measures [] b b.length := by
  intro n
  rw [← Near.nil_right_iff]
  exact ⟨Near.symm, Near.symm⟩

theorem nil_right (x : Char) (h : Measures a [] d) : Measures (x :: a) [] (d + 1) := by
  have hlength : d = a.length := by
    have hle := Near.nil_right_iff.1 ((h d).2 (Nat.le_refl d))
    have hge := (h a.length).1 (Near.nil_right_iff.2 (Nat.le_refl a.length))
    omega
  intro n
  rw [Near.nil_right_iff, List.length_cons, hlength]

theorem cons_self (x : Char) (h : Measures a b d) : Measures (x :: a) (x :: b) d :=
  fun n => Near.cons_self_iff.trans (h n)

theorem cons (hne : x ≠ y) (hd : Measures a b d) (hl : Measures a (y :: b) l)
    (hr : Measures (x :: a) b r) : Measures (x :: a) (y :: b) (min d (min l r) + 1) := by
  intro n
  cases n with
  | zero => exact iff_of_false (Near.not_zero_cons hne) (Nat.not_succ_le_zero _)
  | succ n =>
      rw [Near.cons_succ_iff hne, hd n, hl n, hr n]
      omega

theorem tabulates_suffixLengths (b : List Char) :
    Tabulates (Measures []) b (suffixLengths b) := by
  induction b with
  | nil => exact .last (nil_left [])
  | cons y b ih => exact .cons (nil_left (y :: b)) ih

theorem tabulates_nextDistances (x : Char) (h : Tabulates (Measures a) b row) :
    Tabulates (Measures (x :: a)) b (nextDistances x b row) := by
  induction b generalizing row with
  | nil => exact .last ((h.head 0).nil_right x)
  | cons y b ih =>
      have hdiagonal := h.tail.head 0
      have hshorter := ih h.tail
      refine .cons ?_ hshorter
      by_cases hxy : x = y
      · subst hxy
        rw [if_pos rfl]
        exact hdiagonal.cons_self x
      · rw [if_neg hxy]
        exact hdiagonal.cons hxy (h.head 0) (hshorter.head 0)

theorem editDistance (s t : String) : Measures s.toList t.toList (editDistance s t) := by
  have hrow : ∀ a b, Tabulates (Measures a) b (suffixDistances a b) := by
    intro a b
    induction a with
    | nil => exact tabulates_suffixLengths b
    | cons x a ih => exact tabulates_nextDistances x ih
  exact (hrow s.toList t.toList).head 0

/-- The least distance is the length of a shortest script. -/
theorem isLeast (h : Measures a b d) : IsLeast {n | Script n a b} d := by
  have hbound : ∀ n, Script n a b → d ≤ n := fun n hs => (h n).1 (.of_script hs)
  obtain ⟨k, hk, hs⟩ := ((h d).2 (Nat.le_refl d)).exists_script
  obtain rfl : k = d := Nat.le_antisymm hk (hbound k hs)
  exact ⟨hs, hbound⟩

end Measures

/-! ## The edit distance -/

variable {s t : String}

theorem isLeast_editDistance (s t : String) :
    IsLeast {n | Script n s.toList t.toList} (editDistance s t) :=
  (Measures.editDistance s t).isLeast

theorem script_editDistance (s t : String) : Script (editDistance s t) s.toList t.toList :=
  (isLeast_editDistance s t).1

theorem editDistance_le_of_script (h : Script n s.toList t.toList) : editDistance s t ≤ n :=
  (isLeast_editDistance s t).2 h

theorem editDistance_eq_zero_iff : editDistance s t = 0 ↔ s = t := by
  constructor
  · intro h
    have hs := script_editDistance s t
    rw [h] at hs
    exact String.toList_inj.1 hs.eq_of_zero
  · rintro rfl
    exact Nat.le_zero.1 (editDistance_le_of_script (.done _))

theorem editDistance_comm (s t : String) : editDistance s t = editDistance t s :=
  Nat.le_antisymm (editDistance_le_of_script (script_editDistance t s).symm)
    (editDistance_le_of_script (script_editDistance s t).symm)

theorem editDistance_triangle (s t u : String) :
    editDistance s u ≤ editDistance s t + editDistance t u :=
  editDistance_le_of_script ((script_editDistance s t).trans (script_editDistance t u))

theorem length_difference_le (s t : String) :
    ((s.length : Int) - t.length).natAbs ≤ editDistance s t := by
  have hleft := (script_editDistance s t).length_le
  have hright := (script_editDistance s t).symm.length_le
  simp only [String.length_toList] at hleft hright
  omega

theorem editDistance_le_max (s t : String) : editDistance s t ≤ max s.length t.length := by
  have h := (Measures.editDistance s t _).1 (Near.of_lengths s.toList t.toList)
  simpa only [String.length_toList] using h

/-- The edit distance is the length of a shortest sequence of insertions, deletions and
substitutions of single characters that turns one text into the other. So it is zero for
equal texts alone, it is symmetric and satisfies the triangle inequality, and it lies
between the difference of the two lengths and the greater of them. -/
theorem editDistance_shortest_script (s t : String) :
    IsLeast {n | Script n s.toList t.toList} (editDistance s t) ∧
      (editDistance s t = 0 ↔ s = t) ∧
      editDistance s t = editDistance t s ∧
      (∀ u, editDistance s u ≤ editDistance s t + editDistance t u) ∧
      ((s.length : Int) - t.length).natAbs ≤ editDistance s t ∧
      editDistance s t ≤ max s.length t.length :=
  ⟨isLeast_editDistance s t, editDistance_eq_zero_iff, editDistance_comm s t,
    editDistance_triangle s t, length_difference_le s t, editDistance_le_max s t⟩

example : editDistance "kitten" "sitting" = 3 := by
  decide

end TaskQuery.Text
