import Mathlib.Data.List.Infix
import TaskQuery.Console.Wrap
import TaskQuery.Proofs.Text.Width
/-!
# Lines that fit

A text that fits into the columns of a console breaks only at its line ends, so that putting its
lines together gives the text.
-/

namespace TaskQuery.Console

variable {c : Char} {cs word : List Char} {ws : List (List Char)} {t line : StyledText}
  {columns used place : Nat} {overflow : Overflow}

/-! ## Words -/

/-- Words that are not empty and of which each but the last ends with a blank. -/
def Spaced : List (List Char) → Prop
  | [] => True
  | [word] => word ≠ []
  | word :: next :: rest => (∃ c ∈ word.getLast?, Text.isBlank c = true) ∧ Spaced (next :: rest)

theorem flatten_consWord (c : Char) (ws : List (List Char)) :
    (consWord c ws).flatten = c :: ws.flatten := by
  cases ws with
  | nil => rfl
  | cons word others =>
      rw [consWord]
      split <;> rfl

theorem flatten_words_suffix (cs : List Char) : (cs.foldr consWord []).flatten = cs := by
  induction cs with
  | nil => rfl
  | cons c rest ih => rw [List.foldr_cons, flatten_consWord, ih]

theorem Spaced.ne_nil (h : Spaced (word :: ws)) : word ≠ [] := by
  cases ws with
  | nil => exact h
  | cons next rest =>
      obtain ⟨⟨c, hc, -⟩, -⟩ := h
      rintro rfl
      cases hc

theorem Spaced.tail (h : Spaced (word :: ws)) : Spaced ws := by
  cases ws with
  | nil => trivial
  | cons next rest => exact h.2

theorem Spaced.consWord (h : Spaced ws) (c : Char) : Spaced (consWord c ws) := by
  cases ws with
  | nil => exact List.cons_ne_nil _ _
  | cons word others =>
      rw [Console.consWord]
      split
      · rename_i hbreak
        exact ⟨⟨c, rfl, (Bool.and_eq_true_iff.1 hbreak).1⟩, h⟩
      · cases others with
        | nil => exact List.cons_ne_nil _ _
        | cons next rest =>
            obtain ⟨d, hd, hblank⟩ := h.1
            obtain ⟨e, inner, rfl⟩ := List.exists_cons_of_ne_nil h.ne_nil
            exact ⟨⟨d, by rwa [List.getLast?_cons_cons], hblank⟩, h.2⟩

theorem spaced_foldr (cs : List Char) : Spaced (cs.foldr consWord []) := by
  induction cs with
  | nil => trivial
  | cons c rest ih => exact ih.consWord c

theorem words_spaced (cs : List Char) :
    Spaced (words cs) ∧ ((words cs).flatten = cs ∨ words cs = []) := by
  have hspaced := spaced_foldr cs
  have hflatten := flatten_words_suffix cs
  unfold words
  split
  · exact ⟨trivial, .inr rfl⟩
  · rename_i first others hwords
    rw [hwords] at hspaced hflatten
    split
    · split
      · exact ⟨trivial, .inr rfl⟩
      · rename_i second more
        refine ⟨?_, .inl ?_⟩
        · cases more with
          | nil => exact List.append_ne_nil_of_right_ne_nil _ hspaced.tail
          | cons next rest =>
              obtain ⟨d, hd, hblank⟩ := hspaced.tail.1
              refine ⟨⟨d, ?_, hblank⟩, hspaced.tail.tail⟩
              rw [List.getLast?_append, hd]
              rfl
        · rwa [List.flatten_cons, List.append_assoc, ← List.flatten_cons, ← List.flatten_cons]
    · exact ⟨hspaced, .inl hflatten⟩

theorem width_flatten_words_le (cs : List Char) :
    Text.width (words cs).flatten ≤ Text.width cs := by
  rcases (words_spaced cs).2 with hflatten | hnil
  · rw [hflatten]
  · rw [hnil]
    exact Nat.zero_le _

theorem bareWidth_le (word : List Char) : bareWidth word ≤ Text.width word := by
  have hfront : (word.reverse.dropWhile Text.isBlank).reverse <+: word := by
    rw [← List.reverse_suffix, List.reverse_reverse]
    exact List.dropWhile_suffix _
  obtain ⟨blanks, hblanks⟩ := hfront
  have hle := Text.widthAfter_le_append none (word.reverse.dropWhile Text.isBlank).reverse blanks
  rwa [hblanks] at hle

theorem lineBreaks_eq_nil (hs : Spaced ws) (h : used + Text.width ws.flatten ≤ columns) :
    lineBreaks columns overflow place used ws = [] := by
  induction ws generalizing place used with
  | nil => rfl
  | cons word rest ih =>
      rw [List.flatten_cons] at h
      have hword : Text.width word ≤ Text.width (word ++ rest.flatten) :=
        Text.widthAfter_le_append none word rest.flatten
      have hbare := bareWidth_le word
      have hrest : used + Text.width word + Text.width rest.flatten ≤ columns := by
        cases rest with
        | nil =>
            have hempty : Text.width ([] : List (List Char)).flatten = 0 := rfl
            omega
        | cons next others =>
            obtain ⟨d, hd, hblank⟩ := hs.1
            have hjoiner : word.getLast? ≠ some Text.joiner := by
              rw [hd]
              rintro hd
              obtain rfl := Option.some.inj hd
              exact absurd hblank (by decide)
            have hsum := Text.widthAfter_add_le hjoiner none (next :: others).flatten
            unfold Text.width at *
            omega
      rw [lineBreaks.eq_def]
      dsimp only
      rw [if_pos (by omega)]
      exact ih hs.tail hrest

/-! ## Lines -/

namespace StyledText

/-- A line that fits into some columns, has no tabs and no blanks to lose at its end. -/
structure FitsLine (columns : Nat) (cs : List Char) : Prop where
  width : Text.width cs ≤ columns
  ending : cs.length ≤ columns ∨ ∀ c ∈ cs.getLast?, Text.isBlank c = false
  tabs : '\t' ∉ cs

theorem trimEnd_eq
    (h : t.chars.length ≤ columns ∨ ∀ c ∈ t.chars.getLast?, Text.isBlank c = false) :
    t.trimEnd columns = t := by
  unfold trimEnd
  dsimp only
  rw [if_pos]
  rcases h with hlength | hlast
  · omega
  · have hnone : t.chars.reverse.takeWhile Text.isBlank = [] := by
      cases hreverse : t.chars.reverse with
      | nil => rfl
      | cons last front =>
          have hblank := hlast last (by rw [← List.head?_reverse, hreverse]; rfl)
          exact List.takeWhile_cons_of_neg (by rw [hblank]; exact Bool.false_ne_true)
    rw [hnone]
    exact Nat.zero_min _

theorem lines_of_fits (h : FitsLine columns line.chars) (overflow : Overflow) :
    ((line.expandTabs.divide
      (lineBreaks columns overflow 0 0 (words line.expandTabs.chars))).map fun part =>
        (part.trimEnd columns).truncate columns overflow) = [line] := by
  have htabs : line.expandTabs = line := by
    unfold expandTabs
    rw [if_neg (by simpa using h.tabs)]
  have hbreaks : lineBreaks columns overflow 0 0 (words line.chars) = [] := by
    refine lineBreaks_eq_nil (words_spaced line.chars).1 ?_
    have hwords := width_flatten_words_le line.chars
    have hwidth := h.width
    omega
  have htruncate : line.truncate columns overflow = line := by
    unfold truncate
    rw [if_pos h.width]
  rw [htabs, hbreaks]
  change [(line.trimEnd columns).truncate columns overflow] = [line]
  rw [trimEnd_eq h.ending, htruncate]

theorem wrap_eq_lines (h : ∀ line ∈ t.lines, FitsLine columns line.chars) (overflow : Overflow) :
    t.wrap columns overflow = t.lines := by
  unfold wrap
  generalize t.lines = lines at h
  induction lines with
  | nil => rfl
  | cons line rest ih =>
      obtain ⟨hline, hrest⟩ := List.forall_mem_cons.1 h
      have hhead := lines_of_fits hline overflow
      rw [List.flatMap_cons, ih hrest]
      exact congrArg (· ++ rest) hhead

theorem placesOf_eq_nil {p : Char → Bool} (h : ∀ c ∈ cs, p c = false) (place : Nat) :
    placesOf p place cs = [] := by
  induction cs generalizing place with
  | nil => rfl
  | cons c rest ih =>
      rw [List.forall_mem_cons] at h
      rw [placesOf, if_neg (by rw [h.1]; exact Bool.false_ne_true), ih h.2]

theorem lines_of_one (h : '\n' ∉ t.chars) : t.lines = [t] := by
  have hnone : placesOf (· == '\n') 0 t.chars = [] :=
    placesOf_eq_nil (fun c hc => beq_eq_false_iff_ne.2 (by rintro rfl; exact h hc)) 0
  unfold lines
  rw [hnone]
  rfl

def between (cs : List Char) (first last : Nat) : List Char :=
  (cs.drop first).take (last - first)

theorem between_append (before rest : List Char) {first : Nat} (h : first ≤ before.length) :
    between (before ++ rest) first before.length = before.drop first := by
  have hlength : before.length - first = (before.drop first).length := by
    rw [List.length_drop]
  rw [between, List.drop_append_of_le_length h, hlength, List.take_left]

theorem intercalate_cons {sep part : List Char} {parts : List (List Char)} (h : parts ≠ []) :
    sep.intercalate (part :: parts) = part ++ (sep ++ sep.intercalate parts) := by
  obtain ⟨next, rest, rfl⟩ := List.exists_cons_of_ne_nil h
  simp [List.intercalate]

/-- The parts of a text between its line ends, from a place in front of `rest` on, put together
by line ends. -/
theorem intercalate_between (before rest : List Char) {first : Nat}
    (hfirst : first ≤ before.length) :
    ['\n'].intercalate (List.zipWith (between (before ++ rest))
        (first :: (placesOf (· == '\n') before.length rest).map (· + 1))
        (placesOf (· == '\n') before.length rest ++ [before.length + rest.length])) =
      before.drop first ++ rest := by
  induction rest generalizing before first with
  | nil =>
      have hwhole := between_append before [] hfirst
      simpa [placesOf, List.intercalate] using hwhole
  | cons c rest ih =>
      have hfull : before ++ c :: rest = before ++ [c] ++ rest := by rw [List.append_assoc]; rfl
      have hlength : (before ++ [c]).length = before.length + 1 := List.length_append
      have hend : before.length + (c :: rest).length = before.length + 1 + rest.length := by
        rw [List.length_cons]
        omega
      rw [placesOf]
      split
      · rename_i hc
        -- The first part ends here, and the next one starts behind the line end.
        have hrest := ih (before ++ [c]) (Nat.le_of_eq hlength.symm)
        rw [List.drop_eq_nil_of_le (Nat.le_of_eq hlength), List.nil_append, hlength] at hrest
        rw [List.map_cons, List.cons_append, List.zipWith_cons_cons, intercalate_cons,
          between_append _ _ hfirst, hend, hfull, hrest, ← eq_of_beq hc]
        · rfl
        · cases placesOf (· == '\n') (before.length + 1) rest <;> simp
      · have hrest := ih (before ++ [c]) (Nat.le_trans hfirst (by omega))
        rw [hlength] at hrest
        rw [hend, hfull, hrest, List.drop_append_of_le_length hfirst, List.append_assoc]
        rfl

theorem intercalate_lines (t : StyledText) :
    ['\n'].intercalate (t.lines.map fun line => line.chars) = t.chars := by
  have hall := intercalate_between [] t.chars (Nat.zero_le _)
  rw [List.nil_append, List.length_nil, Nat.zero_add] at hall
  unfold lines
  dsimp only
  split
  · simp
  · rw [List.map_zipWith]
    exact hall

theorem mem_lines (h : line ∈ t.lines) : line = t ∨ ∃ first last, line = t.slice first last := by
  unfold lines at h
  dsimp only at h
  split at h
  · exact .inl (List.mem_singleton.1 h)
  · obtain ⟨i, hi, rfl⟩ := List.mem_iff_getElem.1 h
    rw [List.getElem_zipWith]
    exact .inr ⟨_, _, rfl⟩

theorem chars_of_mem_lines (h : line ∈ t.lines) : line.chars <:+: t.chars := by
  rcases mem_lines h with rfl | ⟨first, last, rfl⟩
  · exact List.infix_refl _
  · exact (List.take_prefix _ _).isInfix.trans (List.drop_suffix _ _).isInfix

theorem isShowable_slice (ht : t.isShowable = true) (first last : Nat) :
    (t.slice first last).isShowable = true := by
  refine List.all_eq_true.2 fun s hs => ?_
  obtain ⟨whole, hwhole, hpart⟩ := List.mem_filterMap.1 hs
  have hshowable : s.showable = whole.showable := by
    unfold Stretch.within? at hpart
    dsimp only at hpart
    split at hpart
    · rw [← Option.some.inj hpart]
    · cases hpart
  rw [hshowable]
  exact List.all_eq_true.1 ht whole hwhole

theorem isShowable_of_mem_lines (ht : t.isShowable = true) (h : line ∈ t.lines) :
    line.isShowable = true := by
  rcases mem_lines h with rfl | ⟨first, last, rfl⟩
  · exact ht
  · exact isShowable_slice ht first last

theorem isShowable_cutAt (ht : t.isShowable = true) (place : Nat) :
    (t.cutAt place).isShowable = true := by
  refine List.all_eq_true.2 fun s hs => ?_
  obtain ⟨whole, hwhole, rfl⟩ := List.mem_map.1 hs
  exact List.all_eq_true.1 ht whole (List.mem_of_mem_filter hwhole)

theorem isShowable_withChars (ht : t.isShowable = true) (cs : List Char) :
    (t.withChars cs).isShowable = true := by
  unfold withChars
  split
  · exact isShowable_cutAt ht cs.length
  · exact ht

theorem isShowable_of_mem_wrap (ht : t.isShowable = true) (htabs : '\t' ∉ t.chars)
    (h : line ∈ t.wrap columns overflow) : line.isShowable = true := by
  obtain ⟨whole, hwhole, hpart⟩ := List.mem_flatMap.1 h
  have hwholeTabs : '\t' ∉ whole.chars := fun htab =>
    htabs ((chars_of_mem_lines hwhole).subset htab)
  have hexpand : whole.expandTabs = whole := by
    unfold expandTabs
    rw [if_neg (by simpa using hwholeTabs)]
  dsimp only at hpart
  rw [hexpand] at hpart
  obtain ⟨part, hdivided, rfl⟩ := List.mem_map.1 hpart
  have hwholeShown := isShowable_of_mem_lines ht hwhole
  have hpartShown : part.isShowable = true := by
    unfold divide at hdivided
    split at hdivided
    · rwa [List.mem_singleton.1 hdivided]
    · obtain ⟨i, hi, rfl⟩ := List.mem_iff_getElem.1 hdivided
      rw [List.getElem_zipWith]
      exact isShowable_slice hwholeShown _ _
  have htrimmed : (part.trimEnd columns).isShowable = true := by
    unfold trimEnd
    dsimp only
    split
    · exact hpartShown
    · exact isShowable_cutAt hpartShown _
  unfold truncate
  split
  · exact htrimmed
  · split <;> exact isShowable_withChars htrimmed _

end StyledText

end TaskQuery.Console
