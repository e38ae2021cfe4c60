import TaskQuery.Proofs.Number.Numeral
import TaskQuery.Proofs.Query.Scanning
/-!
# The lexemes of a query

Which characters are a lexeme, and what each lexeme stands for, without a word about how
they are read. The reader takes the longest lexeme at the start of a text, and where it
finds none there is none.
-/

namespace TaskQuery.Query.Lexeme

/-- What can stand between two quotes: no quote and no backslash by itself, and a backslash
with any character behind it. -/
inductive Body (quote : Char) : List Char → Prop where
  | empty : Body quote []
  | plain {c : Char} {rest : List Char} (hquote : c ≠ quote) (hescape : c ≠ '\\')
      (h : Body quote rest) : Body quote (c :: rest)
  | escaped (c : Char) {rest : List Char} (h : Body quote rest) : Body quote ('\\' :: c :: rest)

def decode : List Char → List Char
  | [] => []
  | '\\' :: c :: rest => unescape c :: decode rest
  | c :: rest => c :: decode rest

def signs : List (List Char × TokenKind) :=
  [(['='], .equals), (['!', '='], .notEquals), (['>'], .greaterThan), (['>', '='], .greaterEqual),
    (['<'], .lessThan), (['<', '='], .lessEqual), (['('], .leftParen), ([')'], .rightParen),
    ([','], .comma)]

/-- The lexemes of a query: their kinds, what they stand for and how they are written. -/
inductive Written : TokenKind → List Char → List Char → Prop where
  | string {quote : Char} {body : List Char} (hquote : quote = '"' ∨ quote = '\'')
      (hbody : Body quote body) : Written .string (decode body) (quote :: (body ++ [quote]))
  | number {slice : List Char} (h : Number.Numeral slice) : Written .number slice slice
  | sign {slice : List Char} {kind : TokenKind} (h : (slice, kind) ∈ signs) :
      Written kind slice slice
  | word {c : Char} {rest : List Char} (hstart : startsWord c = true)
      (hrest : ∀ d ∈ rest, continuesWord d = true) :
      Written (wordKind (c :: rest)) (c :: rest) (c :: rest)

/-- The kinds that no operator and no punctuation mark has. -/
theorem kind_not_mem_of_sign {slice : List Char} {kind : TokenKind} (h : (slice, kind) ∈ signs) :
    kind ∉ [.string, .number, .identifier, .endOfInput] := by
  have hall : ∀ sign ∈ signs, sign.2 ∉ [.string, .number, .identifier, .endOfInput] := by decide
  exact hall _ h

theorem decode_plain {c : Char} (h : c ≠ '\\') (rest : List Char) :
    decode (c :: rest) = c :: decode rest := by
  rw [decode.eq_def]
  split
  · rename_i heq
    exact absurd heq (by simp)
  · rename_i heq
    exact absurd (List.cons.inj heq).1 h
  · rename_i heq
    obtain ⟨rfl, rfl⟩ := List.cons.inj heq
    rfl

/-! ## Characters -/

section Characters

variable {c : Char}

theorem startsWord_iff : startsWord c = true ↔
    (0x41 ≤ c.toNat ∧ c.toNat ≤ 0x5A) ∨ (0x61 ≤ c.toNat ∧ c.toNat ≤ 0x7A) ∨ c = '_' := by
  unfold startsWord Char.isAlpha Char.isUpper Char.isLower
  simp only [Bool.or_eq_true, Bool.and_eq_true, decide_eq_true_eq, beq_iff_eq, or_assoc]
  rfl

theorem continuesWord_iff : continuesWord c = true ↔
    startsWord c = true ∨ c.isDigit = true := by
  unfold continuesWord startsWord Char.isAlphanum
  simp only [Bool.or_eq_true]
  exact or_right_comm

/-- The printable ASCII characters but the space are not blank. -/
theorem isBlank_of_graphic (hl : 0x21 ≤ c.toNat) (hu : c.toNat ≤ 0x7E) :
    Text.isBlank c = false := by
  simp only [Text.isBlank, Text.isSpace, Bool.or_eq_false_iff, Bool.and_eq_false_iff,
    decide_eq_false_iff_not, beq_eq_false_iff_ne]
  omega

theorem isBlank_of_isNumeralChar (h : Number.isNumeralChar c = true) :
    Text.isBlank c = false := by
  rcases Bool.or_eq_true_iff.1 h with h | h
  · obtain ⟨hl, hu⟩ := Number.toNat_of_isDigit h
    exact isBlank_of_graphic (by omega) (by omega)
  · obtain rfl := eq_of_beq h
    decide

theorem isBlank_of_startsWord (h : startsWord c = true) : Text.isBlank c = false := by
  rcases startsWord_iff.1 h with ⟨hl, hu⟩ | ⟨hl, hu⟩ | rfl
  · exact isBlank_of_graphic (by omega) (by omega)
  · exact isBlank_of_graphic (by omega) (by omega)
  · decide

theorem isBlank_of_continuesWord (h : continuesWord c = true) : Text.isBlank c = false := by
  rcases continuesWord_iff.1 h with h | h
  · exact isBlank_of_startsWord h
  · exact isBlank_of_isNumeralChar (by simp [Number.isNumeralChar, h])

theorem not_quote_of_isDigit (h : c.isDigit = true) : ¬(c = '"' ∨ c = '\'') := by
  rintro (rfl | rfl) <;> exact absurd h (by decide)

theorem isDigit_of_startsWord (h : startsWord c = true) : c.isDigit = false := by
  rw [Bool.eq_false_iff]
  intro hd
  obtain ⟨hl, hu⟩ := Number.toNat_of_isDigit hd
  rcases startsWord_iff.1 h with ⟨_, _⟩ | ⟨_, _⟩ | rfl
  · omega
  · omega
  · exact absurd hd (by decide)

end Characters

/-! ## Strings -/

variable {quote c : Char} {body rest cs w content text : List Char} {kind : TokenKind}

theorem readString?_of_body (hquote : quote ≠ '\\') (h : Body quote body) (rest : List Char) :
    readString? quote (body ++ quote :: rest) = some (decode body, body.length + 1) := by
  induction h with
  | empty =>
      rw [List.nil_append, readString?.eq_def]
      exact if_pos rfl
  | plain hne hescape h ih =>
      rw [List.cons_append, readString?.eq_def]
      simp [hne, hescape, ih, decode_plain hescape]
  | escaped c h ih =>
      rw [List.cons_append, List.cons_append, readString?.eq_def]
      simp [hquote.symm, ih, decode]

theorem body_of_readString? {count : Nat}
    (h : readString? quote cs = some (content, count)) : ∃ body rest,
      cs = body ++ quote :: rest ∧ Body quote body ∧ content = decode body ∧
        count = body.length + 1 := by
  fun_induction readString? quote cs generalizing content count with
  | case1 => simp at h
  | case2 rest =>
      obtain ⟨rfl, rfl⟩ := by simpa using h
      exact ⟨[], rest, rfl, .empty, rfl, rfl⟩
  | case3 => simp at h
  | case4 escaped tail hne ih =>
      obtain ⟨⟨inner, n⟩, hread, heq⟩ := Option.map_eq_some_iff.1 h
      obtain ⟨body, rest, rfl, hbody, rfl, rfl⟩ := ih hread
      obtain ⟨rfl, rfl⟩ := Prod.mk.inj heq
      exact ⟨'\\' :: escaped :: body, rest, rfl, .escaped escaped hbody, rfl, rfl⟩
  | case5 c tail hne hescape ih =>
      obtain ⟨⟨inner, n⟩, hread, heq⟩ := Option.map_eq_some_iff.1 h
      obtain ⟨body, rest, rfl, hbody, rfl, rfl⟩ := ih hread
      obtain ⟨rfl, rfl⟩ := Prod.mk.inj heq
      exact ⟨c :: body, rest, rfl, .plain hne hescape hbody, (decode_plain hescape body).symm,
        rfl⟩

/-! ## Numbers -/

theorem length_le_takeWhile {p : Char → Bool} (hw : ∀ d ∈ w, p d = true) (h : w <+: cs) :
    w.length ≤ (cs.takeWhile p).length := by
  obtain ⟨rest, rfl⟩ := h
  rw [List.takeWhile_append_of_pos hw, List.length_append]
  omega

theorem readNumber_cases (cs : List Char) :
    readNumber cs = cs.takeWhile Char.isDigit ∨ ∃ rest,
      cs.dropWhile Char.isDigit = '.' :: rest ∧ rest.takeWhile Char.isDigit ≠ [] ∧
        readNumber cs = cs.takeWhile Char.isDigit ++ '.' :: rest.takeWhile Char.isDigit := by
  unfold readNumber
  dsimp only
  split
  · rename_i rest hdrop
    split
    · exact Or.inl rfl
    · rename_i hne
      exact Or.inr ⟨rest, hdrop, hne, rfl⟩
  · exact Or.inl rfl

theorem readNumber_prefix (cs : List Char) : readNumber cs <+: cs := by
  rcases readNumber_cases cs with h | ⟨rest, hdrop, -, h⟩
  · rw [h]
    exact List.takeWhile_prefix Char.isDigit
  · have hsplit : cs.takeWhile Char.isDigit ++ '.' :: rest = cs := by
      rw [← hdrop]
      exact List.takeWhile_append_dropWhile
    have hpre : cs.takeWhile Char.isDigit ++ '.' :: rest.takeWhile Char.isDigit <+:
        cs.takeWhile Char.isDigit ++ '.' :: rest := by
      rw [List.prefix_append_right_inj, List.cons_prefix_cons]
      exact ⟨rfl, List.takeWhile_prefix Char.isDigit⟩
    rw [hsplit] at hpre
    rw [h]
    exact hpre

theorem numeral_readNumber (h : c.isDigit = true) (rest : List Char) :
    Number.Numeral (readNumber (c :: rest)) := by
  have hne : (c :: rest).takeWhile Char.isDigit ≠ [] := by simp [h]
  rcases readNumber_cases (c :: rest) with hread | ⟨tail, -, htail, hread⟩
  · rw [hread]
    exact .integer hne fun d hd => List.mem_takeWhile_imp hd
  · rw [hread]
    exact .decimal hne htail (fun d hd => List.mem_takeWhile_imp hd)
      fun d hd => List.mem_takeWhile_imp hd

theorem readNumber_of_digit (h : c.isDigit = true) (rest : List Char) :
    readNumber (c :: rest) = c :: (readNumber (c :: rest)).drop 1 := by
  have hpre := readNumber_prefix (c :: rest)
  obtain ⟨d, tail, hread⟩ := List.exists_cons_of_ne_nil (numeral_readNumber h rest).ne_nil
  rw [hread] at hpre ⊢
  rw [(List.cons_prefix_cons.1 hpre).1]
  rfl

theorem length_le_readNumber (h : Number.Numeral w) (hp : w <+: cs) :
    w.length ≤ (readNumber cs).length := by
  cases h with
  | integer hne hd =>
      have hle := length_le_takeWhile hd hp
      rcases readNumber_cases cs with hread | ⟨tail, -, -, hread⟩
      · rw [hread]
        exact hle
      · rw [hread, List.length_append]
        omega
  | @decimal whole fraction hne hne' hd hd' =>
      obtain ⟨rest, rfl⟩ := hp
      have hshape : whole ++ '.' :: fraction ++ rest = whole ++ '.' :: (fraction ++ rest) := by simp
      have htake : (whole ++ '.' :: (fraction ++ rest)).takeWhile Char.isDigit = whole := by
        rw [List.takeWhile_append_of_pos hd]
        simp
      have hdrop : (whole ++ '.' :: (fraction ++ rest)).dropWhile Char.isDigit =
          '.' :: (fraction ++ rest) := by
        rw [List.dropWhile_append_of_pos hd]
        simp
      have hle := length_le_takeWhile hd' (List.prefix_append fraction rest)
      have hpos := List.length_pos_iff.2 hne'
      have hread : readNumber (whole ++ '.' :: (fraction ++ rest)) =
          whole ++ '.' :: (fraction ++ rest).takeWhile Char.isDigit := by
        unfold readNumber
        simp only [htake, hdrop]
        split
        · rename_i hnil
          rw [hnil] at hle
          exact absurd hle (by simpa using hne')
        · rfl
      rw [hshape, hread]
      simp only [List.length_append, List.length_cons]
      omega

/-! ## Ends of lexemes -/

theorem Written.ne_nil {slice : List Char} (h : Written kind text slice) : slice ≠ [] := by
  cases h with
  | string => simp
  | number hnum => exact hnum.ne_nil
  | sign hmem =>
      rintro rfl
      simp [signs] at hmem
  | word => simp

theorem Written.of_string {slice : List Char} (h : Written kind text slice)
    (hk : kind = .string) : ∃ quote body, (quote = '"' ∨ quote = '\'') ∧ Body quote body ∧
      text = decode body ∧ slice = quote :: (body ++ [quote]) := by
  cases h with
  | @string quote body hquote hbody => exact ⟨quote, body, hquote, hbody, rfl, rfl⟩
  | number => exact absurd hk (by decide)
  | sign hmem => exact absurd (by simp [hk]) (kind_not_mem_of_sign hmem)
  | word => exact absurd hk (wordKind_ne (by decide) (by decide) _)

/-- Only a string literal has blank characters in it. -/
theorem Written.graphic {slice : List Char} (h : Written kind text slice) (hk : kind ≠ .string) :
    ∀ d ∈ slice, Text.isBlank d = false := by
  intro d hd
  cases h with
  | string => exact absurd rfl hk
  | number hnum => exact isBlank_of_isNumeralChar (hnum.chars d hd)
  | sign hmem =>
      have hsigns : ∀ sign ∈ signs, sign.1.all (fun d => !Text.isBlank d) = true := by decide
      simpa using List.all_eq_true.1 (hsigns _ hmem) d hd
  | word hstart hrest =>
      rcases List.mem_cons.1 hd with rfl | hd
      · exact isBlank_of_startsWord hstart
      · exact isBlank_of_continuesWord (hrest d hd)

theorem Written.visible {slice : List Char} (h : Written kind text slice) :
    (∀ d ∈ slice.head?, Text.isBlank d = false) ∧ ∀ d ∈ slice.getLast?, Text.isBlank d = false := by
  by_cases hk : kind = .string
  · obtain ⟨quote, body, hquote, -, -, rfl⟩ := h.of_string hk
    have hq : Text.isBlank quote = false := by rcases hquote with rfl | rfl <;> decide
    simp [List.getLast?_cons, hq]
  · have hall := h.graphic hk
    exact ⟨fun d hd => hall d (List.mem_of_mem_head? hd),
      fun d hd => hall d (List.mem_of_mem_getLast? hd)⟩

/-! ## The reader -/

theorem read_of_quote (h : c = '"' ∨ c = '\'') (rest : List Char) :
    read c rest = match readString? c rest with
      | some (content, count) =>
          .ok { kind := .string, text := content, length := count + 1
                length_pos := Nat.succ_pos count }
      | none => .error .unclosedString := by
  unfold read
  exact if_pos h

theorem read_of_digit (h : c.isDigit = true) (rest : List Char) :
    read c rest = .ok (plain .number c ((readNumber (c :: rest)).drop 1)) := by
  unfold read
  rw [if_neg (not_quote_of_isDigit h), if_pos h]

theorem read_of_startsWord (h : startsWord c = true) (rest : List Char) :
    read c rest =
      .ok (plain (wordKind (c :: rest.takeWhile continuesWord)) c
        (rest.takeWhile continuesWord)) := by
  have hne : ∀ d : Char, startsWord d = false → c ≠ d := by
    rintro d hd rfl
    exact absurd h (by simp [hd])
  unfold read
  rw [if_neg (not_or.2 ⟨hne _ (by decide), hne _ (by decide)⟩), isDigit_of_startsWord h,
    if_neg (by simp), if_neg (hne _ (by decide)), if_neg (hne _ (by decide)),
    if_neg (hne _ (by decide)), if_neg (hne _ (by decide)), if_neg (hne _ (by decide)),
    if_neg (hne _ (by decide)), if_neg (hne _ (by decide)), if_pos h]

/-- What the reader makes of `c` and of what stands behind it. -/
inductive Reading (c : Char) (rest : List Char) : Except LexicalFault Lexeme → Prop where
  | string {content : List Char} {count : Nat} (quote : c = '"' ∨ c = '\'')
      (read : readString? c rest = some (content, count)) :
      Reading c rest
        (.ok { kind := .string, text := content, length := count + 1
               length_pos := Nat.succ_pos count })
  | openString (quote : c = '"' ∨ c = '\'') (unread : readString? c rest = none) :
      Reading c rest (.error .unclosedString)
  | number (digit : c.isDigit = true) :
      Reading c rest (.ok (plain .number c ((readNumber (c :: rest)).drop 1)))
  | word (start : startsWord c = true) :
      Reading c rest (.ok (plain (wordKind (c :: rest.takeWhile continuesWord)) c
        (rest.takeWhile continuesWord)))
  | sign {kind : TokenKind} (sign : ([c], kind) ∈ signs) : Reading c rest (.ok (plain kind c []))
  | longSign {d : Char} {kind : TokenKind} (sign : ([c, d], kind) ∈ signs)
      (next : rest.head? = some d) : Reading c rest (.ok (plain kind c [d]))
  | halfSign (bang : c = '!') (next : rest.head? ≠ some '=') :
      Reading c rest (.error .invalidOperator)
  | unexpected (other : c ∉ ['"', '\'', '=', '!', '<', '>', '(', ')', ','])
      (digit : c.isDigit = false) (start : startsWord c = false) :
      Reading c rest (.error .unexpectedCharacter)

theorem reading_sign (h : c ∈ ['=', '!', '<', '>', '(', ')', ',']) (rest : List Char) :
    Reading c rest (read c rest) := by
  simp only [List.mem_cons, List.not_mem_nil, or_false] at h
  rcases h with rfl | rfl | rfl | rfl | rfl | rfl | rfl
  · exact .sign (show (['='], TokenKind.equals) ∈ signs by decide)
  · show Reading '!' rest (if rest.head? = some '=' then .ok (plain .notEquals '!' ['='])
      else .error .invalidOperator)
    split
    · exact .longSign (by decide) ‹_›
    · exact .halfSign rfl ‹_›
  · show Reading '<' rest (.ok (if rest.head? = some '=' then plain .lessEqual '<' ['=']
      else plain .lessThan '<' []))
    split
    · exact .longSign (by decide) ‹_›
    · exact .sign (by decide)
  · show Reading '>' rest (.ok (if rest.head? = some '=' then plain .greaterEqual '>' ['=']
      else plain .greaterThan '>' []))
    split
    · exact .longSign (by decide) ‹_›
    · exact .sign (by decide)
  · exact .sign (show (['('], TokenKind.leftParen) ∈ signs by decide)
  · exact .sign (show ([')'], TokenKind.rightParen) ∈ signs by decide)
  · exact .sign (show ([','], TokenKind.comma) ∈ signs by decide)

theorem reading_read (c : Char) (rest : List Char) : Reading c rest (read c rest) := by
  by_cases hq : c = '"' ∨ c = '\''
  · rw [read_of_quote hq]
    cases hread : readString? c rest with
    | none => exact .openString hq hread
    | some found => exact .string hq hread
  by_cases hd : c.isDigit = true
  · rw [read_of_digit hd]
    exact .number hd
  by_cases hs : startsWord c = true
  · rw [read_of_startsWord hs]
    exact .word hs
  by_cases hsign : c ∈ ['=', '!', '<', '>', '(', ')', ',']
  · exact reading_sign hsign rest
  · simp only [List.mem_cons, List.not_mem_nil, or_false, not_or] at hsign
    simp only [read, if_neg hq, if_neg hd, if_neg hs, hsign, if_false]
    refine .unexpected ?_ (Bool.eq_false_iff.2 hd) (Bool.eq_false_iff.2 hs)
    simp [not_or.1 hq, hsign]

def Stands (cs : List Char) (lexeme : Lexeme) : Prop :=
  lexeme.length ≤ cs.length ∧ Written lexeme.kind lexeme.text (cs.take lexeme.length)

theorem stands_plain (h : Written kind (c :: w) (c :: w)) (hp : w <+: rest) :
    Stands (c :: rest) (plain kind c w) := by
  have hlen := hp.length_le
  refine ⟨Nat.succ_le_succ hlen, ?_⟩
  have htake : (c :: rest).take (w.length + 1) = c :: w := by
    rw [List.take_succ_cons, ← List.prefix_iff_eq_take.1 hp]
  rw [plain, htake]
  exact h

theorem stands_string {content : List Char} {count : Nat} (hq : c = '"' ∨ c = '\'')
    (hread : readString? c rest = some (content, count)) :
    Stands (c :: rest)
      { kind := .string, text := content, length := count + 1
        length_pos := Nat.succ_pos count } := by
  obtain ⟨body, tail, rfl, hbody, rfl, rfl⟩ := body_of_readString? hread
  refine ⟨by simp, ?_⟩
  have htake : (c :: (body ++ c :: tail)).take (body.length + 1 + 1) = c :: (body ++ [c]) := by
    rw [List.take_succ_cons, List.append_cons, List.take_append_of_le_length (by simp),
      List.take_of_length_le (by simp)]
  dsimp only
  rw [htake]
  exact .string hq hbody

theorem stands_number (hd : c.isDigit = true) (rest : List Char) :
    Stands (c :: rest) (plain .number c ((readNumber (c :: rest)).drop 1)) := by
  have hcons := readNumber_of_digit hd rest
  have hpre := readNumber_prefix (c :: rest)
  rw [hcons] at hpre
  exact stands_plain (.number (hcons ▸ numeral_readNumber hd rest))
    (List.cons_prefix_cons.1 hpre).2

theorem stands_of_read {lexeme : Lexeme} (h : read c rest = .ok lexeme) :
    Stands (c :: rest) lexeme := by
  have hreading := reading_read c rest
  rw [h] at hreading
  cases hreading with
  | string quote read => exact stands_string quote read
  | number digit => exact stands_number digit rest
  | word start =>
      exact stands_plain (.word start fun d hd => List.mem_takeWhile_imp hd)
        (List.takeWhile_prefix continuesWord)
  | sign sign => exact stands_plain (.sign sign) List.nil_prefix
  | longSign sign next =>
      obtain ⟨tail, rfl⟩ := List.head?_eq_some_iff.1 next
      exact stands_plain (.sign sign) (by simp)

/-! ## The longest lexeme -/

/-- Whether a lexeme is what a written one is read as, or is longer. -/
def Covers (lexeme : Lexeme) (kind : TokenKind) (text slice : List Char) : Prop :=
  slice.length < lexeme.length ∨
    (lexeme.length = slice.length ∧ lexeme.kind = kind ∧ lexeme.text = text)

theorem covers_plain {longer : List Char} {kind' : TokenKind} (hw : w <+: rest)
    (hl : longer <+: rest) (hle : w.length ≤ longer.length) (hk : w = longer → kind' = kind) :
    Covers (plain kind' c longer) kind (c :: w) (c :: w) := by
  rcases Nat.lt_or_eq_of_le hle with hlt | heq
  · exact Or.inl (Nat.succ_lt_succ hlt)
  · obtain rfl := (List.prefix_of_prefix_length_le hw hl hle).eq_of_length heq
    exact Or.inr ⟨rfl, hk rfl, rfl⟩

theorem isDigit_of_numeral (h : Number.Numeral (c :: w)) : c.isDigit = true := by
  generalize hcs : c :: w = cs at h
  cases h with
  | integer hne hd => exact hd c (hcs ▸ List.mem_cons_self)
  | @decimal whole fraction hne hne' hd hd' =>
      obtain ⟨d, tail, rfl⟩ := List.exists_cons_of_ne_nil hne
      obtain ⟨rfl, -⟩ := List.cons.inj hcs
      exact hd c List.mem_cons_self

/-- Where an operator can go on with `=`, the longer one covers both. -/
theorem covers_of_choice {one two : TokenKind} (rest : List Char) :
    Covers (if rest.head? = some '=' then plain two c ['='] else plain one c []) one [c] [c] := by
  split
  · exact Or.inl (by simp [plain])
  · exact Or.inr ⟨rfl, rfl, rfl⟩

theorem read_covers_sign (h : (w, kind) ∈ signs) (hp : w <+: c :: rest) :
    ∃ lexeme, read c rest = .ok lexeme ∧ lexeme.Covers kind w w := by
  have hnext : ['='] <+: rest → rest.head? = some '=' := by
    rintro ⟨tail, rfl⟩
    rfl
  simp only [signs, List.mem_cons, Prod.mk.injEq, List.not_mem_nil, or_false] at h
  rcases h with ⟨rfl, rfl⟩ | ⟨rfl, rfl⟩ | ⟨rfl, rfl⟩ | ⟨rfl, rfl⟩ | ⟨rfl, rfl⟩ | ⟨rfl, rfl⟩ |
    ⟨rfl, rfl⟩ | ⟨rfl, rfl⟩ | ⟨rfl, rfl⟩
  all_goals obtain ⟨rfl, htail⟩ := List.cons_prefix_cons.1 hp
  · exact ⟨plain .equals '=' [], rfl, Or.inr ⟨rfl, rfl, rfl⟩⟩
  · refine ⟨plain .notEquals '!' ['='], ?_, Or.inr ⟨rfl, rfl, rfl⟩⟩
    exact if_pos (hnext htail)
  · exact ⟨_, rfl, covers_of_choice rest⟩
  · refine ⟨plain .greaterEqual '>' ['='], ?_, Or.inr ⟨rfl, rfl, rfl⟩⟩
    exact congrArg Except.ok (if_pos (hnext htail))
  · exact ⟨_, rfl, covers_of_choice rest⟩
  · refine ⟨plain .lessEqual '<' ['='], ?_, Or.inr ⟨rfl, rfl, rfl⟩⟩
    exact congrArg Except.ok (if_pos (hnext htail))
  · exact ⟨plain .leftParen '(' [], rfl, Or.inr ⟨rfl, rfl, rfl⟩⟩
  · exact ⟨plain .rightParen ')' [], rfl, Or.inr ⟨rfl, rfl, rfl⟩⟩
  · exact ⟨plain .comma ',' [], rfl, Or.inr ⟨rfl, rfl, rfl⟩⟩

/-- Where a lexeme stands, it is read, or a longer one. -/
theorem read_covers {slice : List Char} (h : Written kind text slice)
    (hp : slice <+: c :: rest) : ∃ lexeme, read c rest = .ok lexeme ∧
      lexeme.Covers kind text slice := by
  cases h with
  | @string quote body hquote hbody =>
      obtain ⟨rfl, tail, htail⟩ := List.cons_prefix_cons.1 hp
      have hescape : quote ≠ '\\' := by rcases hquote with rfl | rfl <;> decide
      have hread := readString?_of_body hescape hbody tail
      rw [List.append_cons, htail] at hread
      rw [read_of_quote hquote, hread]
      exact ⟨_, rfl, Or.inr ⟨by simp, rfl, rfl⟩⟩
  | number hnum =>
      obtain ⟨d, tail, rfl⟩ := List.exists_cons_of_ne_nil hnum.ne_nil
      obtain ⟨rfl, htail⟩ := List.cons_prefix_cons.1 hp
      have hd := isDigit_of_numeral hnum
      have hpre := readNumber_prefix (d :: rest)
      have hle := length_le_readNumber hnum hp
      rw [readNumber_of_digit hd] at hpre hle
      refine ⟨_, read_of_digit hd rest, ?_⟩
      exact covers_plain htail (List.cons_prefix_cons.1 hpre).2 (Nat.le_of_succ_le_succ hle)
        fun _ => rfl
  | sign hmem => exact read_covers_sign hmem hp
  | word hstart hrest =>
      obtain ⟨rfl, htail⟩ := List.cons_prefix_cons.1 hp
      refine ⟨_, read_of_startsWord hstart rest, ?_⟩
      refine covers_plain htail (List.takeWhile_prefix continuesWord)
        (length_le_takeWhile hrest htail) ?_
      intro heq
      rw [heq]

theorem length_le_of_read {lexeme : Lexeme} {slice : List Char} (h : read c rest = .ok lexeme)
    (hw : Written kind text slice) (hp : slice <+: c :: rest) : slice.length ≤ lexeme.length := by
  obtain ⟨other, hread, hcovers⟩ := read_covers hw hp
  obtain rfl := Except.ok.inj (h.symm.trans hread)
  rcases hcovers with hlt | ⟨heq, -⟩
  · exact Nat.le_of_lt hlt
  · exact Nat.le_of_eq heq.symm

theorem Written.string_iff (h : Written kind text (c :: w)) :
    kind = .string ↔ c = '"' ∨ c = '\'' := by
  constructor
  · intro hk
    obtain ⟨quote, body, hquote, -, -, heq⟩ := h.of_string hk
    exact (List.cons.inj heq).1 ▸ hquote
  · intro hq
    obtain ⟨lexeme, hread, hcovers⟩ := read_covers h (List.prefix_refl _)
    obtain ⟨hle, -⟩ := stands_of_read hread
    rw [read_of_quote hq] at hread
    split at hread
    · rcases hcovers with hlt | ⟨-, hkind, -⟩
      · omega
      · rw [← hkind, ← Except.ok.inj hread]
    · exact absurd hread (by simp)

/-- A string literal is read to its closing quote, whatever follows. -/
theorem read_exact_string (h : Written kind text (c :: w)) (hk : kind = .string)
    (rest : List Char) : ∃ lexeme, read c (w ++ rest) = .ok lexeme ∧ lexeme.kind = kind ∧
      lexeme.text = text ∧ lexeme.length = w.length + 1 := by
  obtain ⟨quote, body, hquote, hbody, rfl, heq⟩ := h.of_string hk
  obtain ⟨rfl, rfl⟩ := List.cons.inj heq
  have hescape : c ≠ '\\' := by rcases hquote with rfl | rfl <;> decide
  have hread := readString?_of_body hescape hbody rest
  rw [List.append_assoc, List.singleton_append, read_of_quote hquote, hread]
  exact ⟨_, rfl, hk.symm, rfl, by simp⟩

def Faulty (fault : LexicalFault) (c : Char) (rest : List Char) : Prop :=
  match fault with
  | .unclosedString => (c = '"' ∨ c = '\'') ∧ ∀ body, Body c body → ¬body ++ [c] <+: rest
  | .invalidOperator => c = '!' ∧ rest.head? ≠ some '='
  | .unexpectedCharacter => c ∉ ['"', '\'', '=', '!', '<', '>', '(', ')', ','] ∧
      c.isDigit = false ∧ startsWord c = false

theorem faulty_of_read {fault : LexicalFault} (h : read c rest = .error fault) :
    Faulty fault c rest := by
  have hreading := reading_read c rest
  rw [h] at hreading
  cases hreading with
  | openString quote unread =>
      refine ⟨quote, ?_⟩
      rintro body hbody ⟨tail, rfl⟩
      have hescape : c ≠ '\\' := by rcases quote with rfl | rfl <;> decide
      rw [List.append_assoc, List.singleton_append, readString?_of_body hescape hbody] at unread
      cases unread
  | halfSign bang next => exact ⟨bang, next⟩
  | unexpected other digit start => exact ⟨other, digit, start⟩

theorem not_written_of_read {fault : LexicalFault} {slice : List Char}
    (h : read c rest = .error fault) (hw : Written kind text slice) : ¬slice <+: c :: rest := by
  intro hp
  obtain ⟨lexeme, hread, -⟩ := read_covers hw hp
  exact absurd (h.symm.trans hread) (by simp)

end TaskQuery.Query.Lexeme
