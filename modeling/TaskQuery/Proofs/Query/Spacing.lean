import Mathlib.Data.List.Forall2
import TaskQuery.Proofs.Query.Boundary
/-!
# Lexemes with blanks between them

A text of lexemes with blanks between them is read as these lexemes, one token for each, in
their order.
-/

namespace TaskQuery.Query

/-- Words put together with at least one blank character between any two of them. -/
inductive Spaced : List (List Char) → List Char → Prop where
  | last (word : List Char) : Spaced [word] word
  | more {gap : List Char} {words : List (List Char)} {rest : List Char} (word : List Char)
      (nonempty : gap ≠ []) (blank : ∀ c ∈ gap, Text.isBlank c = true) (h : Spaced words rest) :
      Spaced (word :: words) (word ++ (gap ++ rest))

def Token.IsReadFrom (t : Token) (word : List Char) : Prop :=
  Lexeme.Written t.kind t.text.toList word

variable {kind : TokenKind} {word rest gap cs content : List Char} {words : List (List Char)}

theorem Scan.passes_spaced (h : Spaced words cs)
    (hwords : ∀ word ∈ words, ∃ kind content, Lexeme.Written kind content word) (p : Nat) :
    ∃ tokens, Scan.Passes p cs [] tokens ∧ List.Forall₂ Token.IsReadFrom tokens words := by
  induction h generalizing p with
  | last word =>
      obtain ⟨kind, content, hw⟩ := hwords word List.mem_cons_self
      refine ⟨_, .lexeme hw (Lexeme.endsBefore_nil word) p, .cons ?_ .nil⟩
      rw [Token.IsReadFrom, String.toList_ofList]
      exact hw
  | @more gap words rest word nonempty blank h ih =>
      obtain ⟨kind, content, hw⟩ := hwords word List.mem_cons_self
      obtain ⟨tokens, hrest, htokens⟩ := ih (fun w hmem => hwords w (List.mem_cons_of_mem _ hmem))
        (p + word.length + gap.length)
      have hnext : ∀ d ∈ (gap ++ rest ++ []).head?, Lexeme.Breaks d := by
        obtain ⟨c, tail, rfl⟩ := List.exists_cons_of_ne_nil nonempty
        intro d hd
        obtain rfl : c = d := by simpa using hd
        exact Lexeme.breaks_of_isBlank (blank c List.mem_cons_self)
      have hword := Scan.Passes.lexeme hw (Lexeme.endsBefore_of_breaks hw hnext) p
      have hgap := Scan.Passes.gap blank (p + word.length) (rest ++ [])
      refine ⟨_, hword.append (hgap.append hrest), .cons ?_ htokens⟩
      rw [Token.IsReadFrom, String.toList_ofList]
      exact hw

theorem Spaced.ends (h : Spaced words cs)
    (hwords : ∀ word ∈ words, ∃ kind content, Lexeme.Written kind content word) :
    cs ≠ [] ∧ (∀ c ∈ cs.head?, Text.isBlank c = false) ∧
      ∀ c ∈ cs.getLast?, Text.isBlank c = false := by
  induction h with
  | last word =>
      obtain ⟨kind, content, hw⟩ := hwords word List.mem_cons_self
      exact ⟨hw.ne_nil, hw.visible⟩
  | more word nonempty blank h ih =>
      obtain ⟨kind, content, hw⟩ := hwords word List.mem_cons_self
      obtain ⟨hne, -, hlast⟩ := ih fun w hmem => hwords w (List.mem_cons_of_mem _ hmem)
      refine ⟨by simp [hw.ne_nil], fun c hc => ?_, fun c hc => ?_⟩
      · rw [List.head?_append_of_ne_nil _ hw.ne_nil] at hc
        exact hw.visible.1 c hc
      · rw [List.getLast?_append_of_ne_nil _ (by simp [hne]),
          List.getLast?_append_of_ne_nil _ hne] at hc
        exact hlast c hc

theorem tokenize_spaced {text : String} (h : Spaced words text.toList)
    (hwords : ∀ word ∈ words, ∃ kind content, Lexeme.Written kind content word) :
    ∃ tokens stop, tokenize text = .ok (tokens ++ [Token.atEnd stop]) ∧
      List.Forall₂ Token.IsReadFrom tokens words := by
  obtain ⟨-, hhead, hlast⟩ := h.ends hwords
  have hstrip : (Text.strip text).toList = text.toList := by
    rw [Text.strip, String.toList_ofList]
    exact Text.trimBy_eq_self_of_ends hhead hlast
  obtain ⟨tokens, hpass, htokens⟩ := Scan.passes_spaced h hwords 0
  have hread := hpass.read
  rw [← hstrip] at hread
  exact ⟨tokens, _, tokenize_of_scan hread, htokens⟩

end TaskQuery.Query
