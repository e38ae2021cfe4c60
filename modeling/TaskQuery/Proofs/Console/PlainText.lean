import TaskQuery.Console.Markup
import TaskQuery.Proofs.Console.Lines
import TaskQuery.Proofs.Query.Lexicon
/-!
# Plain text in markup

What a text has to be so that the console shows it as it is: it has no tags, no brackets behind
a backslash, no names of emojis between colons and no characters that are left out or moved.
-/

namespace TaskQuery.Console

variable {c : Char} {cs rest word seen name style title : List Char} {ending : CodeEnding}

def Untagged (cs : List Char) : Prop :=
  ∀ rest, rest <:+ cs → readTag? rest = none

def Codeless (cs : List Char) : Prop :=
  ∀ name, ∀ ending ∈ codeEndings, (∀ c ∈ name, Text.isBlank c = false) →
    ':' :: (name ++ ending.text) <:+: cs → emojiNamed? (Text.lower (String.ofList name)) = none

/-- A text that markup has no meaning for. -/
structure Plain (cs : List Char) : Prop where
  untagged : Untagged cs
  unescaped : ¬ ['\\', '['] <:+: cs
  codeless : Codeless cs
  visible : ∀ c ∈ cs, isSilent c = false ∧ c ≠ '\t'

def isHarmless (c : Char) : Bool :=
  c != '[' && c != '\\' && c != ':' && c != '\t' && !isSilent c

/-! ## Plain texts -/

theorem isHarmless_iff : isHarmless c = true ↔
    c ≠ '[' ∧ c ≠ '\\' ∧ c ≠ ':' ∧ c ≠ '\t' ∧ isSilent c = false := by
  simp only [isHarmless, Bool.and_eq_true, bne_iff_ne, Bool.not_eq_true', and_assoc]

/-- A literal is harmless by its characters, whatever its bytes are. -/
theorem harmless_ofList (h : cs.all isHarmless = true) :
    (String.ofList cs).toList.all isHarmless = true := by
  rw [String.toList_ofList, h]

theorem harmless_append {a b : String} (ha : a.toList.all isHarmless = true)
    (hb : b.toList.all isHarmless = true) : (a ++ b).toList.all isHarmless = true := by
  rw [String.toList_append, List.all_append, ha, hb]
  rfl

theorem unmarked_of_harmless (h : cs.all isHarmless = true) : ∀ c ∈ cs, c ≠ '[' ∧ c ≠ '\\' := by
  intro c hc
  obtain ⟨hbracket, hbackslash, -⟩ := isHarmless_iff.1 (List.all_eq_true.1 h c hc)
  exact ⟨hbracket, hbackslash⟩

theorem readTag?_of_ne (hc : c ≠ '[') (rest : List Char) : readTag? (c :: rest) = none := by
  unfold readTag?
  split
  · rename_i hbracket
    exact absurd (List.cons.inj hbracket).1 hc
  · rfl

theorem Untagged.cons (hc : c ≠ '[') (h : Untagged cs) : Untagged (c :: cs) := by
  intro rest hrest
  rcases List.suffix_cons_iff.1 hrest with rfl | hrest
  · exact readTag?_of_ne hc cs
  · exact h rest hrest

namespace Plain

theorem nil : Plain [] where
  untagged rest hrest := by
    rw [List.suffix_nil.1 hrest]
    rfl
  unescaped h := absurd (List.infix_nil.1 h) (List.cons_ne_nil _ _)
  codeless _ _ _ _ h := absurd (List.infix_nil.1 h) (List.cons_ne_nil _ _)
  visible _ hc := absurd hc List.not_mem_nil

theorem cons (hc : isHarmless c = true) (h : Plain cs) : Plain (c :: cs) := by
  obtain ⟨hbracket, hbackslash, hcolon, htab, hsilent⟩ := isHarmless_iff.1 hc
  refine ⟨h.untagged.cons hbracket, ?_, ?_, List.forall_mem_cons.2 ⟨⟨hsilent, htab⟩, h.visible⟩⟩
  · intro hinside
    rcases List.infix_cons_iff.1 hinside with hfront | hinside
    · exact hbackslash (List.cons_prefix_cons.1 hfront).1.symm
    · exact h.unescaped hinside
  · intro name ending hending hname hinside
    rcases List.infix_cons_iff.1 hinside with hfront | hinside
    · exact absurd (List.cons_prefix_cons.1 hfront).1.symm hcolon
    · exact h.codeless name ending hending hname hinside

theorem append (hword : word.all isHarmless = true) (h : Plain cs) : Plain (word ++ cs) := by
  induction word with
  | nil => exact h
  | cons c rest ih =>
      obtain ⟨hc, hrest⟩ := Bool.and_eq_true_iff.1 hword
      exact (ih hrest).cons hc

theorem of_harmless (h : cs.all isHarmless = true) : Plain cs := by
  have hplain := append h nil
  rwa [List.append_nil] at hplain

/-- A colon in front of a blank character or at the end names no emoji. -/
theorem colon (h : Plain cs) (hhead : ∀ c ∈ cs.head?, Text.isBlank c = true) :
    Plain (':' :: cs) := by
  refine ⟨h.untagged.cons (by decide), ?_, ?_,
    List.forall_mem_cons.2 ⟨by decide, h.visible⟩⟩
  · intro hinside
    rcases List.infix_cons_iff.1 hinside with hfront | hinside
    · exact absurd (List.cons_prefix_cons.1 hfront).1 (by decide)
    · exact h.unescaped hinside
  · intro name ending hending hname hinside
    rcases List.infix_cons_iff.1 hinside with hfront | hinside
    · exfalso
      obtain ⟨-, after, rfl⟩ := List.cons_prefix_cons.1 hfront
      cases name with
      | nil =>
          have hall : codeEndings.all (fun ending =>
              ending.text.head?.any fun d => !Text.isBlank d) = true := by decide
          obtain ⟨d, hd, hblank⟩ :=
            (Option.any_eq_true _ _).1 (List.all_eq_true.1 hall ending hending)
          obtain ⟨rest, hrest⟩ := List.head?_eq_some_iff.1 hd
          have hshown : Text.isBlank d = true := hhead d (by rw [List.nil_append, hrest]; rfl)
          rw [hshown] at hblank
          cases hblank
      | cons d others =>
          have hblank : Text.isBlank d = true := hhead d rfl
          rw [hname d List.mem_cons_self] at hblank
          cases hblank
    · exact h.codeless name ending hending hname hinside

theorem labelled {label rest : String} (hlabel : label.toList.all isHarmless = true)
    (h : Plain rest.toList) : Plain (label ++ ": " ++ rest).toList := by
  have hblank : Plain (' ' :: rest.toList) := h.cons (by decide)
  have hcolon := hblank.colon fun c hc => by rw [← Option.some.inj hc]; rfl
  have hall := append hlabel hcolon
  rwa [String.toList_append, String.toList_append, List.append_assoc]

end Plain

/-! ## What is shown -/

theorem withoutEscapes_eq (h : ¬ ['\\', '['] <:+: cs) : withoutEscapes cs = cs := by
  induction cs with
  | nil => rfl
  | cons c rest ih =>
      rw [withoutEscapes, if_neg, ih fun hinside => h (List.infix_cons hinside)]
      intro hescape
      obtain ⟨hc, hhead⟩ := Bool.and_eq_true_iff.1 hescape
      obtain ⟨tail, rfl⟩ := List.head?_eq_some_iff.1 (eq_of_beq hhead)
      obtain rfl := eq_of_beq hc
      exact h (List.prefix_append ['\\', '['] tail).isInfix

theorem readCode?_eq_some (h : readCode? cs = some (name, ending)) :
    ending ∈ codeEndings ∧ (∀ c ∈ name, Text.isBlank c = false) ∧
      name ++ ending.text <+: cs := by
  induction cs generalizing name with
  | nil => cases h
  | cons c rest ih =>
      rw [readCode?] at h
      split at h
      · rename_i found hfound
        cases h
        refine ⟨List.mem_of_find?_eq_some hfound, fun c hc => absurd hc List.not_mem_nil, ?_⟩
        have hfront := List.find?_some hfound
        exact List.isPrefixOf_iff_prefix.1 hfront
      · split at h
        · cases h
        · rename_i hblank
          obtain ⟨⟨inner, found⟩, hinner, heq⟩ := Option.map_eq_some_iff.1 h
          cases heq
          obtain ⟨hending, hname, hfront⟩ := ih hinner
          refine ⟨hending, List.forall_mem_cons.2 ⟨eq_false_of_ne_true hblank, hname⟩, ?_⟩
          exact List.cons_prefix_cons.2 ⟨rfl, hfront⟩

theorem Codeless.of_suffix {others : List Char} (h : Codeless cs) (hsuffix : others <:+ cs) :
    Codeless others :=
  fun name ending hending hname hinside =>
    h name ending hending hname (hinside.trans hsuffix.isInfix)

theorem replaceCodes_eq (h : Codeless cs) : replaceCodes cs = cs := by
  fun_induction replaceCodes cs with
  | case1 => rfl
  | case2 c rest hc name ending hread ih =>
      obtain ⟨hending, hname, after, rfl⟩ := readCode?_eq_some hread
      obtain rfl := eq_of_beq hc
      have hinside : ':' :: (name ++ ending.text) <:+: ':' :: (name ++ ending.text ++ after) :=
        (List.prefix_append (':' :: (name ++ ending.text)) after).isInfix
      have hsuffix : (name ++ ending.text ++ after).drop (name.length + ending.text.length) <:+
          ':' :: (name ++ ending.text ++ after) :=
        (List.drop_suffix _ _).trans (List.suffix_cons _ _)
      rw [ih (h.of_suffix hsuffix), showCode, h name ending hending hname hinside]
      rw [← List.length_append, List.drop_left]
      rfl
  | case3 c rest hc hread ih => rw [ih (h.of_suffix (List.suffix_cons _ _))]
  | case4 c rest hc ih => rw [ih (h.of_suffix (List.suffix_cons _ _))]

theorem Plain.shownChars_eq (h : Plain cs) : shownChars cs = cs := by
  rw [shownChars, withoutEscapes_eq h.unescaped, replaceCodes_eq h.codeless,
    List.filter_eq_self.2 fun c hc => by rw [(h.visible c hc).1]; rfl]

/-! ## Pieces -/

theorem Untagged.of_suffix {others : List Char} (h : Untagged cs) (hsuffix : others <:+ cs) :
    Untagged others :=
  fun rest hrest => h rest (hrest.trans hsuffix)

theorem piecesAfter_cons
    (h : readTag? ((c :: rest).drop ((c :: rest).takeWhile (· == '\\')).length) = none) :
    piecesAfter seen (c :: rest) = piecesAfter (c :: seen) rest := by
  rw [piecesAfter]
  split
  · rename_i hread
    rw [h] at hread
    cases hread
  · rfl

theorem piecesAfter_untagged (h : Untagged cs) (seen : List Char) :
    piecesAfter seen cs = plainPiece (seen.reverse ++ cs) := by
  induction cs generalizing seen with
  | nil => rw [piecesAfter, List.append_nil]
  | cons c rest ih =>
      rw [piecesAfter_cons (h _ (List.drop_suffix _ _)),
        ih (h.of_suffix (List.suffix_cons _ _)), List.reverse_cons, List.append_assoc]
      rfl

theorem piecesAfter_append (hword : ∀ c ∈ word, c ≠ '[' ∧ c ≠ '\\') (seen rest : List Char) :
    piecesAfter seen (word ++ rest) = piecesAfter (word.reverse ++ seen) rest := by
  induction word generalizing seen with
  | nil => rfl
  | cons c others ih =>
      obtain ⟨⟨hbracket, hbackslash⟩, hothers⟩ := List.forall_mem_cons.1 hword
      rw [List.cons_append, piecesAfter_cons, ih hothers, List.reverse_cons, List.append_assoc]
      · rfl
      · rw [List.takeWhile_cons_of_neg (by simpa using hbackslash)]
        exact readTag?_of_ne hbracket _

theorem upToBracket?_append (hname : ∀ d ∈ name, d ≠ '[' ∧ d ≠ ']') (rest : List Char) :
    upToBracket? (name ++ ']' :: rest) = some (name, rest) := by
  induction name with
  | nil => rfl
  | cons d others ih =>
      obtain ⟨⟨hopens, hcloses⟩, hothers⟩ := List.forall_mem_cons.1 hname
      rw [List.cons_append, upToBracket?, if_neg (by simpa using hcloses),
        if_neg (by simpa using hopens), ih hothers]
      rfl

theorem piecesAfter_tag (hc : startsTag c = true) (hname : ∀ d ∈ name, d ≠ '[' ∧ d ≠ ']')
    (seen rest : List Char) :
    piecesAfter seen ('[' :: c :: (name ++ ']' :: rest)) =
      plainPiece seen.reverse ++ .tag (c :: name) :: piecesAfter [] rest := by
  have htag : readTag? ('[' :: c :: (name ++ ']' :: rest)) = some (c :: name, rest) := by
    rw [readTag?, if_pos hc, upToBracket?_append hname]
    rfl
  rw [piecesAfter]
  split
  · rename_i body after hread
    have hfound : readTag? ('[' :: c :: (name ++ ']' :: rest)) = some (body, after) := hread
    rw [htag] at hfound
    cases hfound
    -- No backslash stands in front of the tag.
    have hslashes : (('[' :: c :: (name ++ ']' :: rest)).takeWhile (· == '\\')).length = 0 := rfl
    have hempty : plainPiece (List.replicate (0 / 2) '\\') = [] := rfl
    dsimp only
    rw [hslashes, hempty, List.append_nil]
    rfl
  · rename_i hread
    have hnone : readTag? ('[' :: c :: (name ++ ']' :: rest)) = none := hread
    rw [htag] at hnone
    cases hnone

/-! ## A title in some style -/

theorem toNat_of_isLower (h : c.isLower = true) : 0x61 ≤ c.toNat ∧ c.toNat ≤ 0x7A := by
  unfold Char.isLower at h
  simp only [Bool.and_eq_true, decide_eq_true_eq] at h
  exact ⟨h.1, h.2⟩

structure NamesStyle (style : List Char) : Prop where
  nonempty : style ≠ []
  letters : ∀ c ∈ style, c.isLower = true
  canonical : canonicalStyle? style = some (String.ofList style)
  showable : isUnshowable style = false

namespace NamesStyle

theorem takeWhile_eq (hs : NamesStyle style) : style.takeWhile (· != '=') = style := by
  rw [List.takeWhile_eq_self_iff]
  intro c hc
  have hletter := hs.letters c hc
  rw [bne_iff_ne]
  rintro rfl
  cases hletter

theorem trimBy_eq (hs : NamesStyle style) : Text.trimBy Text.isBlank style = style :=
  Number.trimBy_eq_self fun c hc => Query.Lexeme.isBlank_of_startsWord
    (Query.Lexeme.startsWord_iff.2 (.inr (.inl (toNat_of_isLower (hs.letters c hc)))))

theorem not_action (hs : NamesStyle style) {parameters : Option (List Char)} {first : Nat} :
    ¬ OpenTag.isAction { name := String.ofList style, parameters, first } = true := by
  unfold OpenTag.isAction
  rw [String.toList_ofList, beq_iff_eq]
  intro hhead
  obtain ⟨rest, rfl⟩ := List.head?_eq_some_iff.1 hhead
  cases hs.letters '@' List.mem_cons_self

end NamesStyle

theorem namesStyle_red : NamesStyle "red".toList :=
  ⟨List.cons_ne_nil _ _, List.all_eq_true.1 (by decide), by decide +kernel, by decide +kernel⟩

theorem namesStyle_yellow : NamesStyle "yellow".toList :=
  ⟨List.cons_ne_nil _ _, List.all_eq_true.1 (by decide), by decide +kernel, by decide +kernel⟩

def styledLine (style title rest : List Char) : List Char :=
  '[' :: (style ++ ']' :: (title ++ '[' :: '/' :: (style ++ ']' :: rest)))

theorem pieces_styledLine (hs : NamesStyle style) (ht : ∀ c ∈ title, c ≠ '[' ∧ c ≠ '\\')
    (hr : Untagged rest) :
    pieces (styledLine style title rest) =
      .tag style :: (plainPiece title ++ .tag ('/' :: style) :: plainPiece rest) := by
  have hlower : ∀ c : Char, c.isLower = true → startsTag c = true ∧ c ≠ '[' ∧ c ≠ ']' := by
    intro c hc
    obtain ⟨hlow, hhigh⟩ := toNat_of_isLower hc
    have hrange : ('a' ≤ c && c ≤ 'z') = true :=
      Bool.and_eq_true_iff.2 ⟨decide_eq_true hlow, decide_eq_true hhigh⟩
    refine ⟨by rw [startsTag, hrange]; rfl, ?_, ?_⟩
    · rintro rfl
      cases hc
    · rintro rfl
      cases hc
  obtain ⟨first, others, rfl⟩ := List.exists_cons_of_ne_nil hs.nonempty
  obtain ⟨hfirst, hothers⟩ := List.forall_mem_cons.1 fun c hc => hlower c (hs.letters c hc)
  have hname : ∀ c ∈ first :: others, c ≠ '[' ∧ c ≠ ']' :=
    List.forall_mem_cons.2 ⟨hfirst.2, fun c hc => (hothers c hc).2⟩
  unfold pieces styledLine
  rw [List.cons_append, piecesAfter_tag hfirst.1 fun c hc => (hothers c hc).2,
    piecesAfter_append ht, piecesAfter_tag (by decide) hname, piecesAfter_untagged hr]
  simp only [List.append_nil, List.reverse_reverse, List.reverse_nil, List.nil_append]
  rfl

/-! ## Reading -/

namespace TaggedText

variable {t : TaggedText}

def addChars (t : TaggedText) (cs : List Char) : TaggedText :=
  { t with text := { t.text with chars := t.text.chars ++ cs } }

theorem foldlM_plainPiece (h : Plain cs) : (plainPiece cs).foldlM add t = .ok (t.addChars cs) := by
  unfold plainPiece
  split
  · rename_i hempty
    rw [List.isEmpty_iff.1 hempty, addChars, List.append_nil]
    rfl
  · rw [List.foldlM_cons, add, h.shownChars_eq]
    rfl

theorem add_opening (hs : NamesStyle style) :
    t.add (.tag style) =
      .ok { t with opened :=
        { name := String.ofList style, parameters := none, first := t.text.chars.length } ::
          t.opened } := by
  have hwhole : style.takeWhile (· != '=') = style := hs.takeWhile_eq
  have hhead : ∀ name, style ≠ '/' :: name := by
    rintro name rfl
    cases hs.letters '/' List.mem_cons_self
  rw [add, hwhole]
  split
  · exact absurd rfl (hhead _)
  · rw [if_neg (Nat.lt_irrefl _), openTag, hs.canonical]

theorem add_closing (hs : NamesStyle style) {first : Nat}
    (hopen : t.opened = [{ name := String.ofList style, parameters := none, first }]) :
    t.add (.tag ('/' :: style)) =
      .ok { text := { t.text with stretches :=
              { first, last := t.text.chars.length, showable := true } :: t.text.stretches }
            opened := [] } := by
  have hwhole : ('/' :: style).takeWhile (· != '=') = '/' :: style := by
    rw [List.takeWhile_cons_of_pos (by decide), hs.takeWhile_eq]
  have hclosing : t.closing? style = .ok (some
      { name := String.ofList style, parameters := none, first }) := by
    rw [closing?, hs.trimBy_eq]
    split
    · exact absurd rfl hs.nonempty
    · rw [hs.canonical, hopen]
      simp
  have hclose (last : Nat) :
      OpenTag.close { name := String.ofList style, parameters := none, first } last =
        .ok { first, last, showable := true } := by
    rw [OpenTag.close, if_neg hs.not_action, OpenTag.stretch]
    simp [hs.showable]
  rw [add, hwhole]
  change t.closeTag style = _
  unfold closeTag
  rw [hclosing]
  simp [bind, Except.bind, pure, Except.pure, hclose, hopen]

end TaggedText

theorem readMarkup_plain (h : Plain cs) :
    readMarkup (String.ofList cs) = .ok { chars := cs, stretches := [] } := by
  rw [readMarkup, String.toList_ofList, pieces, piecesAfter_untagged h.untagged,
    List.reverse_nil, List.nil_append, TaggedText.foldlM_plainPiece h]
  rfl

theorem readMarkup_styledLine (hs : NamesStyle style) (ht : Plain title)
    (hword : ∀ c ∈ title, c ≠ '[' ∧ c ≠ '\\') (hr : Plain rest) :
    readMarkup (String.ofList (styledLine style title rest)) =
      .ok { chars := title ++ rest
            stretches := [{ first := 0, last := title.length, showable := true }] } := by
  let empty : TaggedText := { text := { chars := [], stretches := [] }, opened := [] }
  let opened : TaggedText :=
    { empty with opened := [{ name := String.ofList style, parameters := none, first := 0 }] }
  let closed : TaggedText :=
    { text := { chars := title
                stretches := [{ first := 0, last := title.length, showable := true }] }
      opened := [] }
  have hall : (.tag style :: (plainPiece title ++ .tag ('/' :: style) :: plainPiece rest)).foldlM
      TaggedText.add empty = .ok (closed.addChars rest) := by
    rw [List.foldlM_cons, TaggedText.add_opening hs]
    change (plainPiece title ++ .tag ('/' :: style) :: plainPiece rest).foldlM
      TaggedText.add opened = _
    rw [List.foldlM_append, TaggedText.foldlM_plainPiece ht]
    change (.tag ('/' :: style) :: plainPiece rest).foldlM TaggedText.add
      (opened.addChars title) = _
    rw [List.foldlM_cons, TaggedText.add_closing hs rfl]
    exact TaggedText.foldlM_plainPiece hr
  rw [readMarkup, String.toList_ofList, pieces_styledLine hs hword hr.untagged, hall]
  rfl

/-! ## Printing -/

variable {columns : Nat} {t : StyledText} {markup : String}

theorem StyledText.FitsLine.of_wide (htabs : '\t' ∉ cs) (wide : 2 * cs.length ≤ columns) :
    StyledText.FitsLine columns cs where
  width := (Text.width_le cs).trans wide
  ending := .inl (by omega)
  tabs := htabs

/-- A text without tabs is printed whole if the console has two columns for each of its
characters. -/
theorem render_of_wide (h : readMarkup markup = .ok t) (ht : t.isShowable = true)
    (htabs : '\t' ∉ t.chars) (wide : 2 * t.chars.length ≤ columns) :
    render columns markup = .ok (String.ofList t.chars) := by
  have hlines : t.wrap columns .fold = t.lines := by
    refine StyledText.wrap_eq_lines (fun line hline => ?_) .fold
    have hinside := StyledText.chars_of_mem_lines hline
    have hlength := hinside.length_le
    exact .of_wide (fun htab => htabs (hinside.subset htab)) (by omega)
  have hshowable : t.lines.all (fun line => line.isShowable) = true :=
    List.all_eq_true.2 fun line hline => StyledText.isShowable_of_mem_lines ht hline
  unfold render
  rw [h]
  change (if (t.wrap columns .fold).all (fun line => line.isShowable) then _ else _) = _
  rw [hlines, if_pos hshowable, StyledText.intercalate_lines]
  rfl

theorem Plain.no_tab (h : Plain cs) : '\t' ∉ cs :=
  fun htab => (h.visible '\t' htab).2 rfl

theorem render_plain (h : Plain cs) (wide : 2 * cs.length ≤ columns) :
    render columns (String.ofList cs) = .ok (String.ofList cs) :=
  render_of_wide (readMarkup_plain h) rfl h.no_tab wide

theorem render_styledLine (hs : NamesStyle style) (ht : Plain title)
    (hword : ∀ c ∈ title, c ≠ '[' ∧ c ≠ '\\') (hr : Plain rest)
    (wide : 2 * (title ++ rest).length ≤ columns) :
    render columns (String.ofList (styledLine style title rest)) =
      .ok (String.ofList (title ++ rest)) := by
  refine render_of_wide (readMarkup_styledLine hs ht hword hr) rfl (fun htab => ?_) wide
  exact (List.mem_append.1 htab).elim ht.no_tab hr.no_tab

end TaskQuery.Console
