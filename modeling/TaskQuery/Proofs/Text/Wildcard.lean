import Mathlib.Data.List.Forall2
import TaskQuery.Proofs.Text.Suffixes
import TaskQuery.Text.Wildcard
/-!
# What a wildcard pattern matches

A pattern matches a text that can be cut into pieces, one for each character of the pattern:
any run of characters for `%`, one character for `_`, and for every other character one
that is the same letter. The regular expression that a pattern stands for says the same: it
is read back as the elements of the pattern.
-/

namespace TaskQuery.Text

inductive Stands : Char → List Char → Prop where
  | run (piece : List Char) : Stands '%' piece
  | one (t : Char) : Stands '_' [t]
  | letter {c t : Char} (hrun : c ≠ '%') (hone : c ≠ '_') (h : sameLetter c t = true) :
      Stands c [t]

theorem equivalence_sameLetter : Equivalence fun a b => sameLetter a b = true := by
  unfold sameLetter
  simp only [beq_iff_eq]
  exact ⟨fun _ => rfl, Eq.symm, Eq.trans⟩

namespace Wildcard

variable {w : Wildcard} {ws : List Wildcard} {t : Char} {ts text piece : List Char}
  {row : List Bool}

inductive Fits : Wildcard → List Char → Prop where
  | anyRun (piece : List Char) : Fits .anyRun piece
  | anyChar (t : Char) : Fits .anyChar [t]
  | letter {c t : Char} (h : sameLetter c t = true) : Fits (.letter c) [t]

/-- A text that can be cut into pieces, one for each element. -/
def Cuts (elements : List Wildcard) (text : List Char) : Prop :=
  ∃ pieces : List (List Char), List.Forall₂ Fits elements pieces ∧ pieces.flatten = text

/-! ## Cuts -/

theorem fits_iff_takes (hw : w ≠ .anyRun) :
    Fits w piece ↔ ∃ t, piece = [t] ∧ w.takes t = true := by
  constructor
  · intro h
    cases h with
    | anyRun => exact absurd rfl hw
    | anyChar t => exact ⟨t, rfl, rfl⟩
    | @letter c t h => exact ⟨t, rfl, h⟩
  · rintro ⟨t, rfl, h⟩
    cases w with
    | anyRun => exact absurd rfl hw
    | anyChar => exact .anyChar t
    | letter c => exact .letter h

theorem cuts_nil : Cuts [] text ↔ text = [] := by
  constructor
  · rintro ⟨pieces, h, rfl⟩
    cases h
    rfl
  · rintro rfl
    exact ⟨[], .nil, rfl⟩

theorem cuts_cons : Cuts (w :: ws) text ↔
    ∃ piece rest, text = piece ++ rest ∧ Fits w piece ∧ Cuts ws rest := by
  constructor
  · rintro ⟨pieces, h, rfl⟩
    cases h with
    | @cons _ piece _ others hpiece hothers =>
        exact ⟨piece, others.flatten, rfl, hpiece, others, hothers, rfl⟩
  · rintro ⟨piece, rest, rfl, hpiece, others, hothers, rfl⟩
    exact ⟨piece :: others, .cons hpiece hothers, rfl⟩

theorem cuts_run : Cuts (.anyRun :: ws) text ↔
    ∃ front back, text = front ++ back ∧ Cuts ws back := by
  rw [cuts_cons]
  constructor
  · rintro ⟨front, back, rfl, -, h⟩
    exact ⟨front, back, rfl, h⟩
  · rintro ⟨front, back, rfl, h⟩
    exact ⟨front, back, rfl, .anyRun front, h⟩

theorem cuts_run_nil : Cuts (.anyRun :: ws) [] ↔ Cuts ws [] := by
  rw [cuts_run]
  constructor
  · rintro ⟨front, back, h, hback⟩
    obtain ⟨-, rfl⟩ := List.nil_eq_append_iff.1 h
    exact hback
  · intro h
    exact ⟨[], [], rfl, h⟩

theorem cuts_run_cons :
    Cuts (.anyRun :: ws) (t :: ts) ↔ Cuts ws (t :: ts) ∨ Cuts (.anyRun :: ws) ts := by
  rw [cuts_run, cuts_run]
  constructor
  · rintro ⟨front, back, h, hback⟩
    cases front with
    | nil => exact Or.inl (h ▸ hback)
    | cons u front =>
        obtain ⟨-, rfl⟩ := List.cons.inj h
        exact Or.inr ⟨front, back, rfl, hback⟩
  · rintro (h | ⟨front, back, rfl, hback⟩)
    · exact ⟨[], t :: ts, rfl, h⟩
    · exact ⟨t :: front, back, rfl, hback⟩

theorem not_cuts_nil (hw : w ≠ .anyRun) : ¬ Cuts (w :: ws) [] := by
  rw [cuts_cons]
  rintro ⟨piece, rest, h, hpiece, -⟩
  obtain ⟨t, rfl, -⟩ := (fits_iff_takes hw).1 hpiece
  cases h

theorem cuts_single_cons (hw : w ≠ .anyRun) :
    Cuts (w :: ws) (t :: ts) ↔ w.takes t = true ∧ Cuts ws ts := by
  rw [cuts_cons]
  constructor
  · rintro ⟨piece, rest, h, hpiece, hrest⟩
    obtain ⟨u, rfl, hu⟩ := (fits_iff_takes hw).1 hpiece
    obtain ⟨rfl, rfl⟩ := List.cons.inj h
    exact ⟨hu, hrest⟩
  · rintro ⟨ht, hrest⟩
    exact ⟨[t], ts, rfl, (fits_iff_takes hw).2 ⟨t, rfl, ht⟩, hrest⟩

/-! ## Verdicts -/

def Judges (elements : List Wildcard) (text : List Char) (verdict : Bool) : Prop :=
  verdict = true ↔ Cuts elements text

theorem tabulates_atEnd (text : List Char) : Tabulates (Judges []) text (atEnd text) := by
  induction text with
  | nil => exact .last (iff_of_true rfl (cuts_nil.2 rfl))
  | cons t ts ih => exact .cons (iff_of_false (by simp) (by simp [cuts_nil])) ih

theorem tabulates_takesFirst (hw : w ≠ .anyRun) (h : Tabulates (Judges ws) text row) :
    Tabulates (Judges (w :: ws)) text (takesFirst w text row) := by
  induction text generalizing row with
  | nil => exact .last (iff_of_false (by simp) (not_cuts_nil hw))
  | cons t ts ih =>
      have hrest : Judges ws ts (row.tail.headD false) := h.tail.head false
      refine .cons ?_ (ih h.tail)
      rw [Judges, Bool.and_eq_true, cuts_single_cons hw]
      exact and_congr_right fun _ => hrest

theorem tabulates_someLater (h : Tabulates (Judges ws) text row) :
    Tabulates (Judges (.anyRun :: ws)) text (someLater row) := by
  induction h with
  | last h =>
      refine .last ?_
      rw [Judges, cuts_run_nil]
      simpa [Judges, someLater] using h
  | cons h rest ih =>
      have hlater := ih.head false
      refine .cons ?_ ih
      rw [Judges, Bool.or_eq_true, cuts_run_cons]
      exact or_congr h hlater

theorem tabulates_extend (w : Wildcard) (h : Tabulates (Judges ws) text row) :
    Tabulates (Judges (w :: ws)) text (extend text w row) := by
  cases w with
  | anyRun => exact tabulates_someLater h
  | anyChar => exact tabulates_takesFirst (by simp) h
  | letter c => exact tabulates_takesFirst (by simp) h

/-- A pattern accepts exactly the texts that can be cut into pieces for its elements. -/
theorem accepts_iff (elements : List Wildcard) (text : List Char) :
    accepts elements text = true ↔ Cuts elements text := by
  have hrow : Tabulates (Judges elements) text
      (elements.foldr (extend text) (atEnd text)) := by
    induction elements with
    | nil => exact tabulates_atEnd text
    | cons w ws ih => exact tabulates_extend w ih
  exact hrow.head false

/-! ## The characters of a pattern -/

theorem ofChar_cases (c : Char) :
    (c = '%' ∧ ofChar c = .anyRun) ∨ (c = '_' ∧ ofChar c = .anyChar) ∨
      (c ≠ '%' ∧ c ≠ '_' ∧ ofChar c = .letter c) := by
  by_cases hrun : c = '%'
  · exact Or.inl ⟨hrun, if_pos (beq_iff_eq.2 hrun)⟩
  · have hnot : ofChar c = if c == '_' then .anyChar else .letter c := if_neg (by simpa using hrun)
    by_cases hone : c = '_'
    · exact Or.inr (Or.inl ⟨hone, hnot.trans (if_pos (beq_iff_eq.2 hone))⟩)
    · exact Or.inr (Or.inr ⟨hrun, hone, hnot.trans (if_neg (by simpa using hone))⟩)

def toChar : Wildcard → Char
  | .anyRun => '%'
  | .anyChar => '_'
  | .letter c => c

theorem toChar_ofChar : Function.LeftInverse toChar ofChar := by
  intro c
  rcases ofChar_cases c with ⟨rfl, -⟩ | ⟨rfl, -⟩ | ⟨-, -, hc⟩
  · rfl
  · rfl
  · rw [hc, toChar]

theorem fits_ofChar {c : Char} : Fits (ofChar c) piece ↔ Stands c piece := by
  rcases ofChar_cases c with ⟨rfl, hc⟩ | ⟨rfl, hc⟩ | ⟨hrun, hone, hc⟩ <;> rw [hc]
  · exact iff_of_true (.anyRun piece) (.run piece)
  · constructor
    · intro h
      cases h with
      | anyChar t => exact .one t
    · intro h
      cases h with
      | one t => exact .anyChar t
      | letter _ hone _ => exact absurd rfl hone
  · constructor
    · intro h
      cases h with
      | letter h => exact .letter hrun hone h
    · intro h
      cases h with
      | run => exact absurd rfl hrun
      | one => exact absurd rfl hone
      | letter _ _ h => exact .letter h

theorem cuts_ofChar {pattern : List Char} : Cuts (pattern.map ofChar) text ↔
    ∃ pieces : List (List Char), List.Forall₂ Stands pattern pieces ∧ pieces.flatten = text := by
  unfold Cuts
  simp only [List.forall₂_map_left_iff, fits_ofChar]

/-! ## The regular expression -/

def isReserved (c : Char) : Bool :=
  "\\.^$*+?()[]\x7b\x7d|".toList.contains c

/-- Reads a regular expression without groups, classes, anchors and alternatives, whose only
repetition is that of a point. A backslash makes the character behind it plain, unless it is
a letter or a digit. -/
def readExpression : List Char → Option (List Wildcard)
  | [] => some []
  | '.' :: '*' :: rest => (readExpression rest).map (.anyRun :: ·)
  | '.' :: rest => (readExpression rest).map (.anyChar :: ·)
  | '\\' :: c :: rest =>
      if c.isAlphanum then none else (readExpression rest).map (.letter c :: ·)
  | c :: rest => if isReserved c then none else (readExpression rest).map (.letter c :: ·)

/-- The texts that a regular expression matches as a whole. -/
def FullMatch (expression text : String) : Prop :=
  ∃ elements, readExpression expression.toList = some elements ∧ Cuts elements text.toList

theorem not_isAlphanum_of_needsBackslash {c : Char} (h : needsBackslash c = true) :
    c.isAlphanum = false := by
  have hall : ("()[]\x7b\x7d?*+-|^$\\.&~# \t\n\r\x0b\x0c".toList.all fun d => !d.isAlphanum) =
      true := by
    decide
  simpa using List.all_eq_true.1 hall c (List.contains_iff_mem.1 h)

theorem needsBackslash_of_isReserved {c : Char} (h : isReserved c = true) :
    needsBackslash c = true := by
  have hall : "\\.^$*+?()[]\x7b\x7d|".toList.all needsBackslash = true := by
    decide
  exact List.all_eq_true.1 hall c (List.contains_iff_mem.1 h)

theorem head?_letter (c : Char) (rest : List Char) :
    ((letter c).expression ++ rest).head? ≠ some '*' := by
  rw [expression]
  split
  · simp
  · rename_i hplain
    intro h
    obtain rfl : c = '*' := by simpa using h
    exact hplain (by decide)

/-- No expression begins with a repetition of what stands before it. -/
theorem head?_flatMap_expression (ws : List Wildcard) :
    (ws.flatMap expression).head? ≠ some '*' := by
  cases ws with
  | nil => simp
  | cons w ws =>
      rw [List.flatMap_cons]
      cases w with
      | anyRun => simp [expression]
      | anyChar => simp [expression]
      | letter c => exact head?_letter c _

theorem readExpression_letter {c : Char} (rest : List Char) :
    readExpression ((letter c).expression ++ rest) =
      (readExpression rest).map (.letter c :: ·) := by
  rw [expression]
  split
  · rename_i hc
    rw [List.cons_append, List.singleton_append, readExpression,
      if_neg (by simp [not_isAlphanum_of_needsBackslash hc])]
  · rename_i hc
    have hpoint : c ≠ '.' := by
      rintro rfl
      exact hc (by decide)
    have hslash : c ≠ '\\' := by
      rintro rfl
      exact hc (by decide)
    rw [List.singleton_append, readExpression, if_neg]
    · exact fun h => hc (needsBackslash_of_isReserved h)
    all_goals grind

theorem readExpression_point {rest : List Char} (h : rest.head? ≠ some '*') :
    readExpression ('.' :: rest) = (readExpression rest).map (.anyChar :: ·) := by
  rw [readExpression]
  rintro others rfl
  exact h rfl

theorem readExpression_flatMap (ws : List Wildcard) :
    readExpression (ws.flatMap expression) = some ws := by
  induction ws with
  | nil => rfl
  | cons w ws ih =>
      have hread : readExpression (w.expression ++ ws.flatMap expression) =
          (readExpression (ws.flatMap expression)).map (w :: ·) := by
        cases w with
        | anyRun => rfl
        | anyChar => exact readExpression_point (head?_flatMap_expression ws)
        | letter c => exact readExpression_letter _
      rw [List.flatMap_cons, hread, ih]
      rfl

end Wildcard

open Wildcard

variable {pattern text : String}

theorem readExpression_likeExpression (pattern : String) :
    readExpression (likeExpression pattern).toList = some (pattern.toList.map ofChar) := by
  rw [likeExpression, String.toList_ofList, readExpression_flatMap]

/-- A pattern means what its characters say. It matches a text exactly if the text can be
cut into consecutive pieces, one for each character of the pattern in order: any run of
characters for `%`, any one character for `_`, and for every other character one that is
the same letter, which is an equivalence of characters. The regular expression of the
pattern matches the same texts; it is read as the wildcards and the plain characters of the
pattern, and no other pattern has it. -/
theorem like_means_pattern (pattern text : String) :
    (isLike pattern text = true ↔ ∃ pieces : List (List Char),
        List.Forall₂ Stands pattern.toList pieces ∧ pieces.flatten = text.toList) ∧
      (Equivalence fun a b => sameLetter a b = true) ∧
      (isLike pattern text = true ↔ FullMatch (likeExpression pattern) text) ∧
      readExpression (likeExpression pattern).toList = some (pattern.toList.map ofChar) ∧
      ∀ other, likeExpression other = likeExpression pattern → other = pattern := by
  have hread := readExpression_likeExpression pattern
  have hcuts : isLike pattern text = true ↔ Cuts (pattern.toList.map ofChar) text.toList :=
    accepts_iff _ _
  refine ⟨hcuts.trans cuts_ofChar, equivalence_sameLetter, ?_, hread, ?_⟩
  · rw [hcuts, FullMatch, hread]
    simp
  · intro other h
    have hother := readExpression_likeExpression other
    rw [h, hread] at hother
    have hmap := Option.some.inj hother
    exact String.toList_inj.1 (List.map_injective_iff.2 toChar_ofChar.injective hmap).symm

example : isLike "%v1._" "Release\nV1.0" = true ∧ isLike "%v1._" "release v1x0" = false := by
  decide

example : likeExpression "50%_(k)" = "50.*.\\(k\\)" := by
  decide

end TaskQuery.Text
