import TaskQuery.Query.Scanner
/-!
# Scanned tokens

The tokens of a text end with one for the end of the input, and there is no other.
-/

namespace TaskQuery.Query

namespace Lexeme

theorem wordKind_mem (word : List Char) :
    wordKind word ∈ TokenKind.identifier :: TokenKind.keywords.map Prod.snd := by
  unfold wordKind
  cases h : TokenKind.keywords.lookup (String.ofList (word.map Char.toUpper)) with
  | none => exact List.mem_cons_self
  | some kind =>
      obtain ⟨before, after, hk, -⟩ := List.lookup_eq_some_iff.1 h
      exact List.mem_cons_of_mem _ (by simp [hk])

theorem wordKind_ne {kind : TokenKind} (hk : kind ≠ .identifier)
    (hn : kind ∉ TokenKind.keywords.map Prod.snd) (word : List Char) : wordKind word ≠ kind := by
  rintro rfl
  rcases List.mem_cons.1 (wordKind_mem word) with h | h
  · exact hk h
  · exact hn h

theorem wordKind_ne_endOfInput (word : List Char) : wordKind word ≠ .endOfInput :=
  wordKind_ne (by decide) (by decide) word

def IsInner (read : Except LexicalFault Lexeme) : Prop :=
  ∀ lexeme, read = .ok lexeme → lexeme.kind ≠ .endOfInput

theorem IsInner.error (fault : LexicalFault) : IsInner (.error fault) := by
  intro lexeme h
  exact absurd h (by simp)

theorem IsInner.ok {lexeme : Lexeme} (h : lexeme.kind ≠ .endOfInput) : IsInner (.ok lexeme) := by
  intro other heq
  rw [← Except.ok.inj heq]
  exact h

theorem IsInner.ite {p : Prop} [Decidable p] {a b : Except LexicalFault Lexeme}
    (ha : IsInner a) (hb : IsInner b) : IsInner (if p then a else b) := by
  split
  · exact ha
  · exact hb

theorem isInner_read (c : Char) (rest : List Char) : IsInner (read c rest) := by
  have hplain : ∀ kind word, kind ≠ .endOfInput → IsInner (.ok (plain kind c word)) :=
    fun kind word h => .ok h
  unfold read
  apply IsInner.ite
  · split
    · exact .ok TokenKind.noConfusion
    · exact .error .unclosedString
  refine .ite (hplain _ _ (by decide)) ?_
  refine .ite (hplain _ _ (by decide)) ?_
  refine .ite (hplain _ _ (by decide)) ?_
  refine .ite (hplain _ _ (by decide)) ?_
  refine .ite (hplain _ _ (by decide)) ?_
  refine .ite (.ite (hplain _ _ (by decide)) (.error .invalidOperator)) ?_
  refine .ite (.ok (by split <;> exact TokenKind.noConfusion)) ?_
  refine .ite (.ok (by split <;> exact TokenKind.noConfusion)) ?_
  exact .ite (hplain _ _ (wordKind_ne_endOfInput _)) (.error .unexpectedCharacter)

end Lexeme

theorem Scan.kind_ne_endOfInput (position : Nat) (cs : List Char) :
    ∀ t ∈ (Scan.read position cs).tokens, t.kind ≠ .endOfInput := by
  fun_induction Scan.read position cs with
  | case1 => simp
  | case2 => assumption
  | case3 => simp
  | case4 position c rest hb lexeme hl token after ih =>
      intro t ht
      rcases List.mem_cons.1 ht with rfl | ht
      · exact Lexeme.isInner_read c rest lexeme hl
      · exact ih t ht

theorem tokenize_eq (text : String) :
    tokenize text = match Scan.read 0 (Text.strip text).toList with
      | { fault := some fault, .. } => .error fault
      | { tokens, position, fault := none } => .ok (tokens ++ [Token.atEnd position]) := by
  rw [tokenize]
  simp only [Scanner.advance, Scanner.ofText, List.drop_zero, List.nil_append]
  generalize Scan.read 0 (Text.strip text).toList = scan
  obtain ⟨tokens, position, fault⟩ := scan
  cases fault <;> rfl

theorem tokenize_ends {text : String} {tokens : List Token} (h : tokenize text = .ok tokens) :
    ∃ inner position, tokens = inner ++ [Token.atEnd position] ∧
      ∀ t ∈ inner, t.kind ≠ .endOfInput := by
  have hk := Scan.kind_ne_endOfInput 0 (Text.strip text).toList
  rw [tokenize_eq] at h
  split at h
  · exact absurd h (by simp)
  · rename_i inner position heq
    rw [heq] at hk
    exact ⟨inner, position, (Except.ok.inj h).symm, hk⟩

end TaskQuery.Query
