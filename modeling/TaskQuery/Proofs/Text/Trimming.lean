import Mathlib.Data.List.DropRight
import TaskQuery.Text.Blank
/-!
# Trimming

A trimmed list has no member of the class at its ends, and a list without one at its ends
is trimmed already.
-/

namespace TaskQuery.Text

variable {α : Type} {p : α → Bool} {xs : List α}

theorem trimBy_eq_rdropWhile (p : α → Bool) (xs : List α) :
    trimBy p xs = (xs.dropWhile p).rdropWhile p := rfl

theorem dropWhile_eq_self (h : ∀ x ∈ xs.head?, p x = false) : xs.dropWhile p = xs := by
  cases xs with
  | nil => rfl
  | cons x rest => rw [List.dropWhile_cons, h x rfl, if_neg (by simp)]

theorem head?_dropWhile (p : α → Bool) (xs : List α) :
    ∀ x ∈ (xs.dropWhile p).head?, p x = false := by
  intro x hx
  have h := List.head?_dropWhile_not p xs
  rw [Option.mem_def.1 hx] at h
  simpa using h

theorem trimBy_eq_self_of_ends (hhead : ∀ x ∈ xs.head?, p x = false)
    (hlast : ∀ x ∈ xs.getLast?, p x = false) : trimBy p xs = xs := by
  rw [trimBy_eq_rdropWhile, dropWhile_eq_self hhead, List.rdropWhile_eq_self_iff]
  intro hne
  rw [hlast _ (List.getLast?_eq_some_getLast hne)]
  simp

theorem eq_trimBy_append (h : ∀ x ∈ xs.head?, p x = false) :
    xs = trimBy p xs ++ xs.rtakeWhile p := by
  rw [trimBy_eq_rdropWhile, dropWhile_eq_self h, List.rdropWhile_append_rtakeWhile]

theorem trimBy_dropWhile (p : α → Bool) (xs : List α) :
    trimBy p (xs.dropWhile p) = trimBy p xs := by
  rw [trimBy_eq_rdropWhile, trimBy_eq_rdropWhile, dropWhile_eq_self (head?_dropWhile p xs)]

theorem exists_around_trimBy (p : α → Bool) (xs : List α) : ∃ front back,
    xs = front ++ (trimBy p xs ++ back) ∧ (∀ x ∈ front, p x = true) ∧
      ∀ x ∈ back, p x = true := by
  refine ⟨xs.takeWhile p, (xs.dropWhile p).rtakeWhile p, ?_, ?_, ?_⟩
  · have hsplit := eq_trimBy_append (head?_dropWhile p xs)
    rw [trimBy_dropWhile] at hsplit
    rw [← hsplit, List.takeWhile_append_dropWhile]
  · exact fun x hx => List.mem_takeWhile_imp hx
  · exact fun x hx => List.mem_rtakeWhile_imp hx

theorem head?_trimBy (p : α → Bool) (xs : List α) :
    ∀ x ∈ (trimBy p xs).head?, p x = false := by
  intro x hx
  obtain ⟨rest, hrest⟩ := List.rdropWhile_prefix p (xs.dropWhile p)
  rw [← trimBy_eq_rdropWhile] at hrest
  apply head?_dropWhile p xs
  rw [← hrest, List.head?_append, Option.mem_def.1 hx]
  rfl

end TaskQuery.Text
