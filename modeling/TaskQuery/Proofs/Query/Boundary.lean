import TaskQuery.Proofs.Query.Tiling
/-!
# Where a lexeme ends

The reader takes the longest lexeme, so it takes a word to its end and no further if the
character behind it starts no continuation. Then a scan passes over the word whatever else
follows, and scans of words and blanks can be put together.
-/

namespace TaskQuery.Query

namespace Lexeme

/-- No lexeme goes on from a word into what follows it. -/
def EndsBefore (word rest : List Char) : Prop :=
  ∀ d ∈ rest.head?, ∀ kind text more, ¬Written kind text (word ++ d :: more)

/-- A character stands in no lexeme but at its start or in a string literal. -/
def Breaks (d : Char) : Prop :=
  ∀ kind text slice, Written kind text slice → kind ≠ .string → d ∉ slice.tail

variable {kind : TokenKind} {c d : Char} {w word rest text : List Char}

theorem endsBefore_nil (word : List Char) : EndsBefore word [] := by
  intro d hd
  exact absurd hd (by simp)

theorem endsBefore_of_string (h : Written kind text word) (hk : kind = .string)
    (rest : List Char) : EndsBefore word rest := by
  intro d _ kind' text' more hlonger
  obtain ⟨c, w, rfl⟩ := List.exists_cons_of_ne_nil h.ne_nil
  have hk' : kind' = .string := hlonger.string_iff.2 (h.string_iff.1 hk)
  obtain ⟨lexeme, hread, -, -, hlength⟩ := read_exact_string h hk (d :: more)
  obtain ⟨lexeme', hread', -, -, hlength'⟩ := read_exact_string hlonger hk' []
  rw [List.append_nil] at hread'
  obtain rfl := Except.ok.inj (hread.symm.trans hread')
  have hsame : w.length + 1 = (w ++ d :: more).length + 1 := hlength.symm.trans hlength'
  rw [List.length_append, List.length_cons] at hsame
  omega

theorem endsBefore_of_breaks (h : Written kind text word)
    (hnext : ∀ d ∈ rest.head?, Breaks d) : EndsBefore word rest := by
  by_cases hk : kind = .string
  · exact endsBefore_of_string h hk rest
  intro d hd kind' text' more hlonger
  obtain ⟨c, w, rfl⟩ := List.exists_cons_of_ne_nil h.ne_nil
  have hk' : kind' ≠ .string := mt hlonger.string_iff.1 (mt h.string_iff.2 hk)
  apply hnext d hd kind' text' _ hlonger hk'
  rw [List.cons_append, List.tail_cons]
  exact List.mem_append_right w List.mem_cons_self

theorem breaks_of_isBlank (h : Text.isBlank d = true) : Breaks d := by
  intro kind text slice hw hk hmem
  have hvisible := hw.graphic hk d (List.mem_of_mem_tail hmem)
  rw [h] at hvisible
  exact absurd hvisible (by simp)

/-- The closing parenthesis is the end of whatever stands in front of it. -/
theorem breaks_rightParen : Breaks ')' := by
  intro kind text slice hw hk hmem
  cases hw with
  | string => exact hk rfl
  | number hnum =>
      have hchar := hnum.chars ')' (List.mem_of_mem_tail hmem)
      exact absurd hchar (by decide)
  | sign hsign =>
      have hall : ∀ sign ∈ signs, ')' ∉ sign.1.tail := by decide
      exact hall _ hsign hmem
  | word hstart hrest => exact absurd (hrest ')' hmem) (by decide)

theorem endsBefore_paren (hc : c = '(' ∨ c = ')') (rest : List Char) :
    EndsBefore [c] rest := by
  intro d _ kind text more hlonger
  have hword : startsWord c = false := by rcases hc with rfl | rfl <;> decide
  have hdigit : c.isDigit = false := by rcases hc with rfl | rfl <;> decide
  have hquote : ¬(c = '"' ∨ c = '\'') := by rcases hc with rfl | rfl <;> decide
  have hsigns : ∀ sign ∈ signs, sign.1.head? = some c → sign.1.tail = [] := by
    rcases hc with rfl | rfl <;> decide
  have hk : kind ≠ .string := mt hlonger.string_iff.1 hquote
  rw [List.singleton_append] at hlonger
  generalize hcs : c :: d :: more = cs at hlonger
  cases hlonger with
  | string => exact hk rfl
  | number hnum =>
      subst hcs
      rw [isDigit_of_numeral hnum] at hdigit
      exact absurd hdigit (by simp)
  | sign hsign =>
      subst hcs
      exact absurd (hsigns _ hsign rfl) (by simp)
  | word hstart hrest =>
      obtain ⟨rfl, -⟩ := List.cons.inj hcs
      rw [hstart] at hword
      exact absurd hword (by simp)

theorem read_exact (h : Written kind text (c :: w)) (hends : EndsBefore (c :: w) rest) :
    ∃ lexeme, read c (w ++ rest) = .ok lexeme ∧ lexeme.kind = kind ∧ lexeme.text = text ∧
      lexeme.length = w.length + 1 := by
  have hprefix : c :: w <+: c :: (w ++ rest) := List.prefix_append (c :: w) rest
  obtain ⟨lexeme, hread, hcovers⟩ := read_covers h hprefix
  refine ⟨lexeme, hread, ?_⟩
  rcases hcovers with hlonger | ⟨hlength, hkind, htext⟩
  · obtain ⟨hle, hwritten⟩ := stands_of_read hread
    rw [List.length_cons] at hlonger
    cases rest with
    | nil =>
        rw [List.append_nil, List.length_cons] at hle
        omega
    | cons d tail =>
        obtain ⟨n, hn⟩ := Nat.exists_eq_add_of_lt hlonger
        have htake : (c :: (w ++ d :: tail)).take lexeme.length = c :: w ++ d :: tail.take n := by
          have hlength : lexeme.length = (c :: w ++ [d]).length + n := by
            rw [hn]
            simp
            omega
          rw [hlength, show c :: (w ++ d :: tail) = (c :: w ++ [d]) ++ tail by simp,
            List.take_length_add_append]
          simp
        rw [htake] at hwritten
        exact absurd hwritten (hends d rfl _ _ _)
  · exact ⟨hkind, htext, hlength⟩

end Lexeme

/-! ## Passing over a part of a text -/

/-- A scan from a place passes over a part of a text with some tokens, and goes on behind
it. What follows is there while the part is read. -/
def Scan.Passes (p : Nat) (cs rest : List Char) (tokens : List Token) : Prop :=
  Scan.read p (cs ++ rest) =
    { Scan.read (p + cs.length) rest with
      tokens := tokens ++ (Scan.read (p + cs.length) rest).tokens }

namespace Scan.Passes

variable {p : Nat} {cs ds rest blanks slice content : List Char} {tokens others : List Token}
  {kind : TokenKind}

theorem append (h : Passes p cs (ds ++ rest) tokens)
    (k : Passes (p + cs.length) ds rest others) :
    Passes p (cs ++ ds) rest (tokens ++ others) := by
  unfold Passes at h k ⊢
  rw [List.append_assoc, h, k, List.length_append, ← Nat.add_assoc, List.append_assoc]

theorem gap (h : ∀ c ∈ blanks, Text.isBlank c = true) (p : Nat) (rest : List Char) :
    Passes p blanks rest [] := by
  unfold Passes
  induction blanks generalizing p with
  | nil => rfl
  | cons c blanks ih =>
      have hplace : p + (c :: blanks).length = p + 1 + blanks.length := by
        rw [List.length_cons]
        omega
      rw [List.cons_append, Scan.read_blank (h c List.mem_cons_self),
        ih (fun d hd => h d (List.mem_cons_of_mem c hd)), hplace]

theorem lexeme (h : Lexeme.Written kind content slice)
    (hends : Lexeme.EndsBefore slice rest) (p : Nat) :
    Passes p slice rest
      [{ kind, text := String.ofList content, position := p, length := slice.length }] := by
  unfold Passes
  obtain ⟨c, w, rfl⟩ := List.exists_cons_of_ne_nil h.ne_nil
  have hvisible : Text.isBlank c = false := h.visible.1 c rfl
  obtain ⟨lexeme, hread, hkind, htext, hlength⟩ := Lexeme.read_exact h hends
  have hrest : (w ++ rest).drop (lexeme.length - 1) = rest := by
    rw [hlength, Nat.add_sub_cancel, List.drop_left]
  rw [List.cons_append, Scan.read_lexeme hvisible hread]
  dsimp only
  rw [hrest, hkind, htext, hlength, List.length_cons, List.singleton_append]

theorem kind_ne (h : Passes p cs rest tokens) : ∀ t ∈ tokens, t.kind ≠ .endOfInput := by
  intro t ht
  have hinner := Scan.kind_ne_endOfInput p (cs ++ rest)
  unfold Passes at h
  rw [h] at hinner
  exact hinner t (List.mem_append_left _ ht)

theorem read (h : Passes p cs [] tokens) :
    Scan.read p cs = { tokens, position := p + cs.length, fault := none } := by
  unfold Passes at h
  rw [List.append_nil, Scan.read_nil, List.append_nil] at h
  exact h

end Scan.Passes

/-- A scan passes over a part of a text with tokens of some form, whatever stands in front
of the part and behind it. -/
def Scan.Yields (cs : List Char) (Form : List Token → Prop) : Prop :=
  ∀ start rest, ∃ tokens, Scan.Passes start cs rest tokens ∧ Form tokens

theorem Scan.Yields.append {cs ds : List Char} {Form Other : List Token → Prop}
    (h : Yields cs Form) (k : Yields ds Other) :
    Yields (cs ++ ds) fun tokens => ∃ front back, Form front ∧ Other back ∧
      tokens = front ++ back := by
  intro start rest
  obtain ⟨front, hfront, hform⟩ := h start (ds ++ rest)
  obtain ⟨back, hback, hother⟩ := k (start + cs.length) rest
  exact ⟨front ++ back, hfront.append hback, front, back, hform, hother, rfl⟩

theorem Scan.Yields.gap {blanks : List Char} (h : ∀ c ∈ blanks, Text.isBlank c = true) :
    Yields blanks fun tokens => tokens = [] :=
  fun start rest => ⟨[], .gap h start rest, rfl⟩

end TaskQuery.Query
