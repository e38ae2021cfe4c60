import Mathlib.Data.List.Basic
import TaskQuery.Text.Width
/-!
# Columns of texts

What a text takes is bounded by the number of its characters, grows with the text and, where a
text is cut, is at least what its parts take.
-/

namespace TaskQuery.Text

variable {c d : Char} {a b cs rest : List Char} {last : Option Char} {k : Nat}

/-! ## One character -/

theorem charWidth_le (c : Char) : charWidth c ≤ 2 := by
  unfold charWidth
  dsimp only
  split_ifs <;> decide

theorem widthAfter_joiner (last : Option Char) (d : Char) (rest : List Char) :
    widthAfter last (joiner :: d :: rest) = widthAfter last rest := by
  rw [widthAfter, if_pos (beq_self_eq_true joiner)]

theorem widthAfter_selector (last : Option Char) (rest : List Char) :
    widthAfter last (emojiSelector :: rest) =
      (if last.any hasEmojiForm then 1 else 0) + widthAfter none rest := by
  have hne : ¬ (emojiSelector == joiner) = true := by decide
  rw [widthAfter.eq_def]
  dsimp only
  rw [if_neg hne, if_pos (beq_self_eq_true emojiSelector)]

theorem widthAfter_cons (hj : c ≠ joiner) (hs : c ≠ emojiSelector) (last : Option Char)
    (rest : List Char) :
    widthAfter last (c :: rest) =
      charWidth c + widthAfter (if charWidth c = 0 then last else some c) rest := by
  rw [widthAfter.eq_def]
  dsimp only
  rw [if_neg (by simpa using hj), if_neg (by simpa using hs)]

/-! ## Texts -/

theorem widthAfter_le (last : Option Char) (cs : List Char) :
    widthAfter last cs ≤ 2 * cs.length := by
  fun_induction widthAfter last cs with
  | case1 => exact Nat.zero_le _
  | case2 => exact Nat.zero_le _
  | case3 last c hc d tail ih =>
      simp only [List.length_cons]
      omega
  | case4 last c rest hj hs ih =>
      have hone : (if last.any hasEmojiForm then 1 else 0) ≤ 1 := by split <;> omega
      simp only [List.length_cons]
      omega
  | case5 last c rest hj hs ih =>
      have htwo := charWidth_le c
      simp only [List.length_cons]
      omega

theorem width_le (cs : List Char) : width cs ≤ 2 * cs.length :=
  widthAfter_le none cs

/-- A character in front that has an emoji form only adds columns. -/
theorem width_le_widthAfter (last : Option Char) (cs : List Char) :
    width cs ≤ widthAfter last cs := by
  unfold width
  fun_induction widthAfter last cs with
  | case1 => exact Nat.le_refl _
  | case2 last c hc => rw [eq_of_beq hc]; exact Nat.le_refl _
  | case3 last c hc d tail ih =>
      rw [eq_of_beq hc, widthAfter_joiner]
      exact ih
  | case4 last c rest hj hs ih =>
      rw [eq_of_beq hs, widthAfter_selector]
      exact Nat.add_le_add_right (Nat.zero_le _) _
  | case5 last c rest hj hs ih =>
      rw [widthAfter_cons (by simpa using hj) (by simpa using hs)]
      split
      · rename_i hzero
        rw [if_pos hzero] at ih
        exact Nat.add_le_add_left ih _
      · exact Nat.le_refl _

theorem widthAfter_le_append (last : Option Char) (a b : List Char) :
    widthAfter last a ≤ widthAfter last (a ++ b) := by
  fun_induction widthAfter last a with
  | case1 => exact Nat.zero_le _
  | case2 => exact Nat.zero_le _
  | case3 last c hc d tail ih =>
      rw [eq_of_beq hc, List.cons_append, List.cons_append, widthAfter_joiner]
      exact ih
  | case4 last c rest hj hs ih =>
      rw [eq_of_beq hs, List.cons_append, widthAfter_selector]
      exact Nat.add_le_add_left ih _
  | case5 last c rest hj hs ih =>
      rw [List.cons_append, widthAfter_cons (by simpa using hj) (by simpa using hs)]
      exact Nat.add_le_add_left ih _

theorem getLast?_ne_of_cons (h : (c :: rest).getLast? ≠ some d) : rest.getLast? ≠ some d := by
  cases rest with
  | nil => exact nofun
  | cons e others => rwa [List.getLast?_cons_cons] at h

/-- The parts of a text that is not cut behind a joiner. -/
theorem widthAfter_add_le (h : a.getLast? ≠ some joiner) (last : Option Char) (b : List Char) :
    widthAfter last a + width b ≤ widthAfter last (a ++ b) := by
  fun_induction widthAfter last a with
  | case1 => simpa using width_le_widthAfter _ b
  | case2 last c hc => exact absurd (congrArg some (eq_of_beq hc)) h
  | case3 last c hc d tail ih =>
      rw [eq_of_beq hc, List.cons_append, List.cons_append, widthAfter_joiner]
      exact ih (getLast?_ne_of_cons (getLast?_ne_of_cons h))
  | case4 last c rest hj hs ih =>
      rw [eq_of_beq hs, List.cons_append, widthAfter_selector, Nat.add_assoc]
      exact Nat.add_le_add_left (ih (getLast?_ne_of_cons h)) _
  | case5 last c rest hj hs ih =>
      rw [List.cons_append, widthAfter_cons (by simpa using hj) (by simpa using hs),
        Nat.add_assoc]
      exact Nat.add_le_add_left (ih (getLast?_ne_of_cons h)) _

theorem widthAfter_space (last : Option Char) (rest : List Char) :
    widthAfter last (' ' :: rest) = 1 + widthAfter (some ' ') rest :=
  widthAfter_cons (by decide) (by decide) last rest

theorem widthAfter_spaces (last : Option Char) (k : Nat) :
    widthAfter last (List.replicate k ' ') = k := by
  induction k generalizing last with
  | zero => rfl
  | succ k ih =>
      rw [List.replicate_succ, widthAfter_space, ih]
      omega

theorem widthAfter_append_spaces_le (last : Option Char) (cs : List Char) (k : Nat) :
    widthAfter last (cs ++ List.replicate k ' ') ≤ widthAfter last cs + k := by
  fun_induction widthAfter last cs with
  | case1 =>
      rw [List.nil_append, widthAfter_spaces]
      exact Nat.le_add_left k _
  | case2 last c hc =>
      -- The joiner takes the first of the spaces.
      rw [eq_of_beq hc]
      cases k with
      | zero => exact Nat.le_refl _
      | succ k =>
          rw [List.replicate_succ, List.cons_append, List.nil_append, widthAfter_joiner,
            widthAfter_spaces]
          omega
  | case3 last c hc d tail ih =>
      rw [eq_of_beq hc, List.cons_append, List.cons_append, widthAfter_joiner]
      exact ih
  | case4 last c rest hj hs ih =>
      rw [eq_of_beq hs, List.cons_append, widthAfter_selector, Nat.add_assoc]
      exact Nat.add_le_add_left ih _
  | case5 last c rest hj hs ih =>
      rw [List.cons_append, widthAfter_cons (by simpa using hj) (by simpa using hs),
        Nat.add_assoc]
      exact Nat.add_le_add_left ih _

end TaskQuery.Text
