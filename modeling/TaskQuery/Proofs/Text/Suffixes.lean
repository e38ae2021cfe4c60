/-!
# Rows over the suffixes of a text

Wildcard matching and the edit distance work through rows: a row has one value for each
suffix of a text, the longest suffix first. A row is made from the row before it, and the
first value of the last row is the answer.
-/

namespace TaskQuery.Text

/-- A row in which every value fits its suffix of the text. -/
inductive Tabulates {α : Type} (r : List Char → α → Prop) : List Char → List α → Prop where
  | last {a : α} (h : r [] a) : Tabulates r [] [a]
  | cons {c : Char} {text : List Char} {a : α} {row : List α} (h : r (c :: text) a)
      (rest : Tabulates r text row) : Tabulates r (c :: text) (a :: row)

namespace Tabulates

variable {α : Type} {r : List Char → α → Prop} {c : Char} {text : List Char} {row : List α}

theorem head (h : Tabulates r text row) (default : α) : r text (row.headD default) := by
  cases h with
  | last h => exact h
  | cons h rest => exact h

theorem tail (h : Tabulates r (c :: text) row) : Tabulates r text row.tail := by
  cases h with
  | cons h rest => exact rest

end Tabulates

end TaskQuery.Text
