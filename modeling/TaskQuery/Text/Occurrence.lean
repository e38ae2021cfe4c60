/-!
# Occurrence

Whether one text occurs in another as a run of consecutive characters.
-/

namespace TaskQuery.Text

def occursIn (part : List Char) : List Char → Bool
  | [] => part.isEmpty
  | c :: rest => part.isPrefixOf (c :: rest) || occursIn part rest

theorem occursIn_iff {part text : List Char} :
    occursIn part text = true ↔ part <:+: text := by
  induction text with
  | nil => simp [occursIn]
  | cons c rest ih =>
      rw [occursIn, Bool.or_eq_true, ih, List.isPrefixOf_iff_prefix, List.infix_cons_iff]

end TaskQuery.Text
