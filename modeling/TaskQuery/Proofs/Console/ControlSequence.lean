import Mathlib.Data.List.TakeWhile
import TaskQuery.Console.ControlSequence
/-!
# Texts without control sequences

What reaches a file or a pipe is the text with every control sequence left out, taken from the
front, and nothing else changed. A text without an escape character is not changed at all.
-/

namespace TaskQuery.Console

variable {cs rest out tail arguments : List Char} {c letter : Char} {count : Nat}

def isArgument (c : Char) : Bool :=
  c.isDigit || c == ';' || c == '?'

theorem isArgument_eq : (fun c : Char => c.isDigit || c == ';' || c == '?') = isArgument :=
  rfl

inductive IsSequence : List Char → Prop where
  | sequence {arguments : List Char} {letter : Char}
      (plain : ∀ c ∈ arguments, isArgument c = true) (ends : letter.isAlpha = true) :
      IsSequence (escape :: '[' :: (arguments ++ [letter]))

/-- What is left of a text without its control sequences. -/
inductive Leaves : List Char → List Char → Prop where
  | nil : Leaves [] []
  | sequence {seq rest out : List Char} (found : IsSequence seq) (h : Leaves rest out) :
      Leaves (seq ++ rest) out
  | char {c : Char} {rest out : List Char} (none : ∀ seq, IsSequence seq → ¬ seq <+: c :: rest)
      (h : Leaves rest out) : Leaves (c :: rest) (c :: out)

theorem not_isArgument_of_isAlpha (h : letter.isAlpha = true) : isArgument letter = false := by
  have hrange : (0x41 ≤ letter.toNat ∧ letter.toNat ≤ 0x5A) ∨
      (0x61 ≤ letter.toNat ∧ letter.toNat ≤ 0x7A) := by
    unfold Char.isAlpha Char.isUpper Char.isLower at h
    simp only [Bool.or_eq_true, Bool.and_eq_true, decide_eq_true_eq] at h
    exact h
  have hdigit : letter.isDigit = false := by
    rw [Bool.eq_false_iff]
    intro hd
    unfold Char.isDigit at hd
    simp only [Bool.and_eq_true, decide_eq_true_eq] at hd
    have hlow : letter.toNat ≤ 0x39 := hd.2
    omega
  have hmark (mark : Char) (hm : mark.toNat < 0x41) : (letter == mark) = false := by
    rw [beq_eq_false_iff_ne]
    rintro rfl
    omega
  unfold isArgument
  rw [hdigit, hmark ';' (by decide), hmark '?' (by decide)]
  rfl

/-! ## The end of a sequence -/

theorem sequenceTail?_eq (plain : ∀ c ∈ arguments, isArgument c = true)
    (ends : letter.isAlpha = true) (rest : List Char) :
    sequenceTail? ('[' :: (arguments ++ letter :: rest)) = some (arguments.length + 2) := by
  have htake : (arguments ++ letter :: rest).takeWhile isArgument = arguments := by
    rw [List.takeWhile_append_of_pos plain, List.takeWhile_cons, not_isArgument_of_isAlpha ends]
    exact List.append_nil _
  rw [sequenceTail?, isArgument_eq, htake, List.drop_left]
  exact if_pos ends

theorem eq_of_sequenceTail? (h : sequenceTail? tail = some count) : ∃ arguments letter rest,
    (∀ c ∈ arguments, isArgument c = true) ∧ letter.isAlpha = true ∧
      tail = '[' :: (arguments ++ letter :: rest) ∧ count = arguments.length + 2 := by
  unfold sequenceTail? at h
  split at h
  · rename_i rest
    dsimp only at h
    rw [isArgument_eq] at h
    split at h
    · rename_i letter others hdrop
      split at h
      · rename_i ends
        refine ⟨_, letter, others, fun c hc => List.mem_takeWhile_imp hc, ends, ?_,
          (Option.some.inj h).symm⟩
        rw [← hdrop, List.prefix_iff_eq_append.1 (List.takeWhile_prefix isArgument)]
      · cases h
    · cases h
  · cases h

theorem sequenceTail?_eq_none (none : ∀ seq, IsSequence seq → ¬ seq <+: escape :: tail) :
    sequenceTail? tail = Option.none := by
  rw [Option.eq_none_iff_forall_ne_some]
  intro count h
  obtain ⟨arguments, letter, rest, plain, ends, rfl, -⟩ := eq_of_sequenceTail? h
  exact none _ (.sequence plain ends) ⟨rest, by simp⟩

/-! ## Leaving sequences out -/

theorem withoutSequences_sequence {seq : List Char} (h : IsSequence seq) (rest : List Char) :
    withoutSequences (seq ++ rest) = withoutSequences rest := by
  cases h with
  | @sequence arguments letter plain ends =>
      have htail := sequenceTail?_eq plain ends rest
      have hdrop : ('[' :: (arguments ++ letter :: rest)).drop (arguments.length + 2) = rest := by
        simp
      rw [List.cons_append, List.cons_append, List.append_assoc, List.singleton_append,
        withoutSequences, if_pos (beq_self_eq_true _), htail]
      dsimp only
      rw [hdrop]

theorem withoutSequences_char (none : ∀ seq, IsSequence seq → ¬ seq <+: c :: rest) :
    withoutSequences (c :: rest) = c :: withoutSequences rest := by
  rw [withoutSequences]
  split
  · rename_i hc
    obtain rfl := eq_of_beq hc
    rw [sequenceTail?_eq_none none]
  · rfl

theorem sequence_at_front {seq : List Char} (h : IsSequence seq)
    (hfront : seq <+: c :: tail) : c = escape ∧ sequenceTail? tail ≠ none := by
  obtain ⟨rest, hrest⟩ := hfront
  cases h with
  | @sequence arguments letter plain ends =>
      obtain ⟨hc, htail⟩ := List.cons.inj hrest
      have hsplit : tail = '[' :: (arguments ++ letter :: rest) := by
        rw [← htail]
        simp
      rw [hsplit, sequenceTail?_eq plain ends rest]
      exact ⟨hc.symm, Option.some_ne_none _⟩

/-- The text that reaches a file is what is left without control sequences, and nothing else. -/
theorem leaves_iff : Leaves cs out ↔ withoutSequences cs = out := by
  constructor
  · intro h
    induction h with
    | nil => rw [withoutSequences]
    | sequence found h ih => rw [withoutSequences_sequence found, ih]
    | char none h ih => rw [withoutSequences_char none, ih]
  · rintro rfl
    fun_induction withoutSequences cs with
    | case1 => exact .nil
    | case2 c rest hc count hcount ih =>
        obtain rfl := eq_of_beq hc
        obtain ⟨arguments, letter, others, plain, ends, rfl, rfl⟩ := eq_of_sequenceTail? hcount
        have hall := Leaves.sequence (.sequence plain ends) ih
        have hdrop : ('[' :: (arguments ++ letter :: others)).drop (arguments.length + 2) =
            others := by simp
        rw [hdrop] at hall ⊢
        simpa only [List.cons_append, List.append_assoc, List.nil_append] using hall
    | case3 c rest hc hnone ih =>
        exact .char (fun seq hseq hp => (sequence_at_front hseq hp).2 hnone) ih
    | case4 c rest hc ih =>
        refine .char (fun seq hseq hp => hc ?_) ih
        rw [(sequence_at_front hseq hp).1]
        exact beq_self_eq_true _

theorem leaves_of_no_escape (h : escape ∉ cs) : Leaves cs cs := by
  induction cs with
  | nil => exact .nil
  | cons c rest ih =>
      obtain ⟨hc, hrest⟩ := not_or.1 (mt List.mem_cons.2 h)
      exact .char (fun seq hseq hp => hc (sequence_at_front hseq hp).1.symm) (ih hrest)

end TaskQuery.Console
