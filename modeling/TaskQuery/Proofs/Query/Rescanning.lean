import TaskQuery.Proofs.Query.Termination
import TaskQuery.Proofs.Query.Tiling
/-!
# Scanning again

A scanner is not set back between its calls. After a text without a fault it stands at the end
and adds one more end of the input at each call. In front of a character at fault it stays, and
refuses in the same way each time. Only a string that is never closed is left behind: the calls
after its refusal pass, as if the text ended in front of it.
-/

namespace TaskQuery.Query

variable {cs : List Char} {p : Nat} {e : SyntaxError} {s : Scanner}

/-! ## Where a scan stops -/

theorem Scan.position_of_fault (h : (Scan.read p cs).fault = some e) :
    (Scan.read p cs).position =
      if e.fault = .unclosedString then p + cs.length else e.position := by
  fun_induction Scan.read p cs with
  | case1 p => cases h
  | case2 p c rest hblank ih =>
      rw [ih h, List.length_cons]
      split
      · omega
      · rfl
  | case3 p c rest hblank fault hread =>
      obtain rfl := Option.some.inj h
      rfl
  | case4 p c rest hblank lexeme hread token after ih =>
      have hle := (Lexeme.stands_of_read hread).1
      have hpos := lexeme.length_pos
      rw [List.length_cons] at hle
      refine (ih h).trans ?_
      rw [List.length_drop, List.length_cons]
      split
      · omega
      · rfl

namespace Scanner

/-! ## One call -/

def AtEnd (s : Scanner) : Prop :=
  s.position = s.text.length

structure AtFault (s : Scanner) (e : SyntaxError) : Prop where
  place : s.position = e.position
  holds : e.Holds s.text
  kept : e.fault ≠ .unclosedString

theorem AtFault.of_holds (text : List Char) (held : List Token) (holds : e.Holds text)
    (kept : e.fault ≠ .unclosedString) : AtFault ⟨text, e.position, held⟩ e :=
  ⟨rfl, holds, kept⟩

def ended (s : Scanner) : Scanner :=
  { s with tokens := s.tokens ++ [Token.atEnd s.text.length] }

theorem AtEnd.advance (h : s.AtEnd) : s.advance = (s.ended, none) := by
  obtain ⟨text, position, tokens⟩ := s
  obtain rfl : position = text.length := h
  rw [Scanner.advance, List.drop_length, Scan.read_nil]
  simp [ended]

theorem AtFault.advance (h : s.AtFault e) : s.advance = (s, some e) := by
  obtain ⟨text, position, tokens⟩ := s
  obtain ⟨rfl, holds, kept⟩ := h
  obtain ⟨stop, hread⟩ := holds.read
  have hfault : (Scan.read e.position (text.drop e.position)).fault = some e := by rw [hread]
  have hstop := Scan.position_of_fault hfault
  rw [if_neg kept, hread] at hstop
  obtain rfl : stop = e.position := hstop
  rw [Scanner.advance, hread]
  simp

inductive FirstCall (text : List Char) : Scanner × Option SyntaxError → Prop where
  | passed {inner : List Token} (tiling : Tiling text text.length inner) :
      FirstCall text (⟨text, text.length, inner ++ [Token.atEnd text.length]⟩, none)
  | refused {held : List Token} {e : SyntaxError} (holds : e.Holds text)
      (kept : e.fault ≠ .unclosedString) (tiling : Tiling text e.position held) :
      FirstCall text (⟨text, e.position, held⟩, some e)
  | unclosed {held : List Token} {e : SyntaxError} (holds : e.Holds text)
      (left : e.fault = .unclosedString) (tiling : Tiling text e.position held) :
      FirstCall text (⟨text, text.length, held⟩, some e)

theorem firstCall (text : String) :
    FirstCall (ofText text).text (ofText text).advance := by
  have hreaches : (Scan.read 0 (ofText text).text).Reaches (ofText text).text 0 :=
    Scan.reaches_read _ (Nat.zero_le _) List.drop_zero
  have hstart : (ofText text).advance =
      (⟨(ofText text).text, (Scan.read 0 (ofText text).text).position,
        (Scan.read 0 (ofText text).text).tokens ++
          if (Scan.read 0 (ofText text).text).fault.isNone then
            [Token.atEnd (Scan.read 0 (ofText text).text).position] else []⟩,
        (Scan.read 0 (ofText text).text).fault) := rfl
  rw [hstart]
  cases hfault : (Scan.read 0 (ofText text).text).fault with
  | none =>
      obtain ⟨hposition, htiles⟩ := hreaches.of_none hfault
      rw [hposition]
      exact .passed htiles.tiling
  | some e =>
      obtain ⟨holds, htiles⟩ := hreaches.of_some hfault
      have hposition := Scan.position_of_fault hfault
      rw [Nat.zero_add] at hposition
      rw [hposition, Option.isNone_some, if_neg Bool.false_ne_true, List.append_nil]
      split
      · rename_i left
        exact .unclosed holds left htiles.tiling
      · rename_i kept
        exact .refused holds kept htiles.tiling

/-! ## Many calls -/

def after (s : Scanner) : Nat → Scanner
  | 0 => s
  | calls + 1 => (s.after calls).advance.1

theorem after_succ (s : Scanner) (calls : Nat) :
    s.after (calls + 1) = s.advance.1.after calls := by
  induction calls with
  | zero => rfl
  | succ calls ih => exact congrArg (fun s => s.advance.1) ih

theorem AtEnd.after (h : s.AtEnd) (calls : Nat) :
    s.after calls =
      { s with tokens := s.tokens ++ List.replicate calls (Token.atEnd s.text.length) } := by
  induction calls with
  | zero =>
      rw [List.replicate_zero, List.append_nil]
      rfl
  | succ calls ih =>
      have hend : (s.after calls).AtEnd := by
        rw [ih]
        exact h
      rw [Scanner.after, hend.advance, ih, List.replicate_succ', ← List.append_assoc]
      rfl

theorem AtFault.after (h : s.AtFault e) (calls : Nat) : s.after calls = s := by
  induction calls with
  | zero => rfl
  | succ calls ih => rw [Scanner.after, ih, h.advance]

/-- After the first call and some more the scanner stands at the end of the text, holds the tokens
of the first call and one end of the input for each of the others, and the next call passes. -/
structure EndsAdded (text : String) (more : Nat) : Prop where
  position : ((ofText text).after (more + 1)).position = (ofText text).text.length
  tokens : ((ofText text).after (more + 1)).tokens = (ofText text).advance.1.tokens ++
    List.replicate more (Token.atEnd (ofText text).text.length)
  passes : ((ofText text).after (more + 1)).advance.2 = none

theorem endsAdded {text : String} {tokens : List Token} {fault : Option SyntaxError}
    (h : (ofText text).advance =
      (⟨(ofText text).text, (ofText text).text.length, tokens⟩, fault)) (more : Nat) :
    EndsAdded text more := by
  have hend : (ofText text).advance.1.AtEnd := by rw [AtEnd, h]
  have hafter : (ofText text).after (more + 1) =
      ⟨(ofText text).text, (ofText text).text.length, (ofText text).advance.1.tokens ++
        List.replicate more (Token.atEnd (ofText text).text.length)⟩ := by
    rw [after_succ, hend.after, h]
  have hlast : ((ofText text).after (more + 1)).AtEnd := by rw [AtEnd, hafter]
  refine ⟨?_, ?_, ?_⟩
  · rw [hafter]
  · rw [hafter]
  · rw [hlast.advance]

/-- What a scanner does that is called again and again. If the first call passes, so do all
others, and each adds one more end of the input, which changes nothing in what the tokens are
read as. If a character is refused, each call refuses it anew and changes nothing. If a string
is never closed, the calls after its refusal pass, and each adds an end of the input to the
tokens in front of it. -/
theorem advance_again (text : String) (more : Nat) :
    ((ofText text).advance.2 = none →
      EndsAdded text more ∧
      (∃ inner, Tiling (ofText text).text (ofText text).text.length inner ∧
        (ofText text).advance.1.tokens = inner ++ [Token.atEnd (ofText text).text.length]) ∧
      parseTokens ((ofText text).after (more + 1)).tokens =
        parseTokens (ofText text).advance.1.tokens) ∧
    ∀ e, (ofText text).advance.2 = some e →
      (e.fault ≠ .unclosedString →
        ((ofText text).after more).advance = (ofText text).advance) ∧
      (e.fault = .unclosedString →
        EndsAdded text more ∧
        Tiling (ofText text).text e.position (ofText text).advance.1.tokens) := by
  have hfirst := firstCall text
  generalize hcall : (ofText text).advance = call at hfirst
  cases hfirst with
  | @passed inner tiling =>
      have hadded := endsAdded hcall more
      refine ⟨fun _ => ⟨hadded, ⟨inner, tiling, rfl⟩, ?_⟩, nofun⟩
      have hstop : (Token.atEnd (ofText text).text.length).kind = .endOfInput := rfl
      rw [hadded.tokens, hcall, List.append_assoc]
      exact Parse.parseTokens_behind tiling.inner hstop _ []
  | @refused held e holds kept tiling =>
      refine ⟨nofun, fun e' he => ?_⟩
      obtain rfl := Option.some.inj he
      refine ⟨fun _ => ?_, fun left => absurd left kept⟩
      have hfault := AtFault.of_holds (ofText text).text held holds kept
      cases more with
      | zero => exact hcall
      | succ more =>
          rw [after_succ, hcall, hfault.after]
          exact hfault.advance
  | @unclosed held e holds left tiling =>
      refine ⟨nofun, fun e' he => ?_⟩
      obtain rfl := Option.some.inj he
      exact ⟨fun kept => absurd left kept, fun _ => ⟨endsAdded hcall more, tiling⟩⟩

end Scanner

end TaskQuery.Query
