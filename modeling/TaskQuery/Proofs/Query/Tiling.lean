import TaskQuery.Proofs.Query.Lexicon
import TaskQuery.Proofs.Query.Scanning
import TaskQuery.Proofs.Text.Trimming
/-!
# Tokens tile the text

A text that can be read is covered by the spans of its tokens and by blanks. Each token is
the longest lexeme that starts at its place. A text that cannot be read is covered in this
way up to a place where no lexeme starts.
-/

namespace TaskQuery.Query

def Token.slice (t : Token) (s : List Char) : List Char :=
  (s.drop t.position).take t.length

/-- A token is the longest lexeme of a text that starts at its position. -/
structure Token.Fits (t : Token) (s : List Char) : Prop where
  nonempty : 0 < t.length
  inside : t.position + t.length ≤ s.length
  written : Lexeme.Written t.kind t.text.toList (t.slice s)
  longest : ∀ kind text slice, Lexeme.Written kind text slice → slice <+: s.drop t.position →
    slice.length ≤ t.length

/-- Tokens and blanks that follow each other without a gap from one place to another. -/
inductive Tiles (s : List Char) : Nat → Nat → List Token → Prop where
  | done (p : Nat) : Tiles s p p []
  | blank {p q : Nat} {c : Char} {tokens : List Token} (hc : s[p]? = some c)
      (hblank : Text.isBlank c = true) (h : Tiles s (p + 1) q tokens) : Tiles s p q tokens
  | token {p q : Nat} {t : Token} {tokens : List Token} (hp : t.position = p)
      (ht : t.Fits s) (h : Tiles s (p + t.length) q tokens) : Tiles s p q (t :: tokens)

/-- An error names a place of a text where a character stands that is not blank, no lexeme
starts, and the reason given holds. -/
structure SyntaxError.Holds (e : SyntaxError) (s : List Char) : Prop where
  character : s[e.position]? = some e.character
  visible : Text.isBlank e.character = false
  faulty : Lexeme.Faulty e.fault e.character (s.drop (e.position + 1))
  nothing : ∀ kind text slice, Lexeme.Written kind text slice → ¬slice <+: s.drop e.position

variable {s : List Char} {p q : Nat} {t : Token} {tokens : List Token}

/-! ## Scanning makes a tiling -/

theorem drop_succ_of_drop {c : Char} {rest : List Char} (h : s.drop p = c :: rest) (n : Nat) :
    s.drop (p + (n + 1)) = rest.drop n := by
  rw [← List.drop_drop, h, List.drop_succ_cons]

theorem getElem?_of_drop {c : Char} {rest : List Char} (h : s.drop p = c :: rest) :
    s[p]? = some c := by
  rw [← List.head?_drop, h]
  rfl

theorem drop_of_getElem? {c : Char} (h : s[p]? = some c) : s.drop p = c :: s.drop (p + 1) := by
  obtain ⟨hlt, hc⟩ := List.getElem?_eq_some_iff.1 h
  rw [List.drop_eq_getElem_cons hlt, hc]

theorem fits_of_read {c : Char} {rest : List Char} {lexeme : Lexeme} (h : s.drop p = c :: rest)
    (hread : Lexeme.read c rest = .ok lexeme) :
    Token.Fits
      { kind := lexeme.kind, text := String.ofList lexeme.text, position := p,
        length := lexeme.length } s := by
  obtain ⟨hlen, hwritten⟩ := Lexeme.stands_of_read hread
  refine ⟨lexeme.length_pos, ?_, ?_, ?_⟩
  · have hdrop := congrArg List.length h
    rw [List.length_drop] at hdrop
    have hpos := lexeme.length_pos
    dsimp only
    omega
  · rw [Token.slice, h, String.toList_ofList]
    exact hwritten
  · intro kind text slice hw hp
    rw [h] at hp
    exact Lexeme.length_le_of_read hread hw hp

/-- A scan from a place of a text tiles it to the end, or to a place where an error holds. -/
def Scan.Reaches (scan : Scan) (s : List Char) (p : Nat) : Prop :=
  match scan.fault with
  | none => scan.position = s.length ∧ Tiles s p s.length scan.tokens
  | some e => e.Holds s ∧ Tiles s p e.position scan.tokens

theorem Scan.Reaches.of_none {scan : Scan} (h : scan.Reaches s p) (hfault : scan.fault = none) :
    scan.position = s.length ∧ Tiles s p s.length scan.tokens := by
  rw [Scan.Reaches, hfault] at h
  exact h

theorem Scan.Reaches.of_some {scan : Scan} {e : SyntaxError} (h : scan.Reaches s p)
    (hfault : scan.fault = some e) : e.Holds s ∧ Tiles s p e.position scan.tokens := by
  rw [Scan.Reaches, hfault] at h
  exact h

theorem Scan.Reaches.blank {scan : Scan} {c : Char} (hc : s[p]? = some c)
    (hblank : Text.isBlank c = true) (h : scan.Reaches s (p + 1)) : scan.Reaches s p := by
  unfold Scan.Reaches at h ⊢
  split at h
  · exact ⟨h.1, .blank hc hblank h.2⟩
  · exact ⟨h.1, .blank hc hblank h.2⟩

theorem Scan.Reaches.token {scan : Scan} (ht : t.Fits s)
    (h : scan.Reaches s (t.position + t.length)) :
    { scan with tokens := t :: scan.tokens }.Reaches s t.position := by
  unfold Scan.Reaches at h ⊢
  split at h
  · rename_i hfault
    rw [hfault]
    exact ⟨h.1, .token rfl ht h.2⟩
  · rename_i e hfault
    rw [hfault]
    exact ⟨h.1, .token rfl ht h.2⟩

theorem Scan.reaches_read (cs : List Char) (hp : p ≤ s.length) (hcs : s.drop p = cs) :
    (Scan.read p cs).Reaches s p := by
  fun_induction Scan.read p cs with
  | case1 p =>
      have hlen := List.drop_eq_nil_iff.1 hcs
      obtain rfl : p = s.length := by omega
      exact ⟨rfl, .done _⟩
  | case2 p c rest hb ih =>
      have hc := getElem?_of_drop hcs
      have hlt := (List.getElem?_eq_some_iff.1 hc).1
      exact .blank hc hb (ih hlt (drop_succ_of_drop hcs 0))
  | case3 p c rest hb fault hread =>
      refine ⟨⟨getElem?_of_drop hcs, Bool.eq_false_iff.2 hb, ?_, ?_⟩, .done p⟩
      · have hrest : s.drop (p + 1) = rest := drop_succ_of_drop hcs 0
        dsimp only
        rw [hrest]
        exact Lexeme.faulty_of_read hread
      · intro kind text slice hw hpre
        rw [hcs] at hpre
        exact Lexeme.not_written_of_read hread hw hpre
  | case4 p c rest hb lexeme hread token after ih =>
      have hfits := fits_of_read hcs hread
      have hdrop : s.drop (p + lexeme.length) = rest.drop (lexeme.length - 1) := by
        rw [← drop_succ_of_drop hcs, Nat.sub_add_cancel lexeme.length_pos]
      exact .token hfits (ih hfits.inside hdrop)

/-! ## A tiling is what is scanned -/

theorem read_of_fits {c : Char} {rest : List Char} (ht : t.Fits s)
    (h : s.drop t.position = c :: rest) : ∃ lexeme, Lexeme.read c rest = .ok lexeme ∧
      lexeme.kind = t.kind ∧ lexeme.text = t.text.toList ∧ lexeme.length = t.length := by
  have hlen : (t.slice s).length = t.length := by
    have hinside := ht.inside
    rw [Token.slice, List.length_take, List.length_drop]
    omega
  have hpre : t.slice s <+: c :: rest := by
    rw [← h]
    exact List.take_prefix t.length _
  obtain ⟨lexeme, hread, hcovers⟩ := Lexeme.read_covers ht.written hpre
  obtain ⟨hle, hwritten⟩ := Lexeme.stands_of_read hread
  have hlongest := ht.longest _ _ _ hwritten (h ▸ List.take_prefix lexeme.length _)
  rw [List.length_take, Nat.min_eq_left hle] at hlongest
  refine ⟨lexeme, hread, ?_⟩
  -- The reader is not shorter, since it covers the token, and not longer, since the token
  -- is the longest.
  rcases hcovers with hlt | ⟨hlength, hkind, htext⟩
  · omega
  · exact ⟨hkind, htext, hlength.trans hlen⟩

theorem Token.Fits.head (ht : t.Fits s) : ∃ c, s.drop t.position = c :: s.drop (t.position + 1) ∧
    Text.isBlank c = false := by
  have hlt : t.position < s.length := by
    have hpos := ht.nonempty
    have hinside := ht.inside
    omega
  have hdrop := List.drop_eq_getElem_cons hlt
  refine ⟨s[t.position], hdrop, ?_⟩
  apply ht.written.visible.1
  obtain ⟨n, hn⟩ := Nat.exists_eq_add_of_lt ht.nonempty
  rw [Token.slice, hdrop, hn, List.take_succ_cons]
  rfl

theorem Scan.read_nil (p : Nat) :
    Scan.read p [] = { tokens := [], position := p, fault := none } := by
  rw [Scan.read.eq_def]

theorem Scan.read_blank {c : Char} (h : Text.isBlank c = true) (p : Nat) (rest : List Char) :
    Scan.read p (c :: rest) = Scan.read (p + 1) rest := by
  rw [Scan.read.eq_def]
  exact if_pos h

theorem Scan.read_lexeme {c : Char} {rest : List Char} {lexeme : Lexeme}
    (hc : Text.isBlank c = false) (h : Lexeme.read c rest = .ok lexeme) (p : Nat) :
    Scan.read p (c :: rest) =
      let after := Scan.read (p + lexeme.length) (rest.drop (lexeme.length - 1))
      { after with tokens :=
          { kind := lexeme.kind, text := String.ofList lexeme.text, position := p,
            length := lexeme.length } :: after.tokens } := by
  rw [Scan.read.eq_def]
  dsimp only
  rw [if_neg (by simp [hc]), h]

/-- A scan passes over a tiling and goes on behind it. -/
theorem Tiles.read (h : Tiles s p q tokens) :
    Scan.read p (s.drop p) =
      { Scan.read q (s.drop q) with tokens := tokens ++ (Scan.read q (s.drop q)).tokens } := by
  induction h with
  | done => rfl
  | blank hc hblank h ih =>
      rw [drop_of_getElem? hc, Scan.read_blank hblank]
      exact ih
  | @token p q t tokens hp ht h ih =>
      subst hp
      obtain ⟨c, hdrop, hblank⟩ := ht.head
      obtain ⟨lexeme, hread, hkind, htext, hlength⟩ := read_of_fits ht hdrop
      have hrest : (s.drop (t.position + 1)).drop (t.length - 1) =
          s.drop (t.position + t.length) := by
        have hpos := ht.nonempty
        rw [List.drop_drop]
        congr 1
        omega
      rw [hdrop, Scan.read_lexeme hblank hread]
      dsimp only
      rw [hlength, hkind, htext, hrest, ih, String.ofList_toList]
      rfl

/-! ## The text up to an error -/

theorem Tiles.le (h : Tiles s p q tokens) : p ≤ q := by
  induction h with
  | done => exact Nat.le_refl _
  | blank _ _ _ ih => omega
  | token _ _ _ ih => omega

theorem Token.Fits.last (ht : t.Fits s) :
    ∃ c, s[t.position + (t.length - 1)]? = some c ∧ Text.isBlank c = false := by
  have hpos := ht.nonempty
  have hinside := ht.inside
  have hlt : t.position + (t.length - 1) < s.length := by omega
  refine ⟨s[t.position + (t.length - 1)], List.getElem?_eq_getElem hlt, ?_⟩
  apply ht.written.visible.2
  have hlen : (t.slice s).length = t.length := by
    rw [Token.slice, List.length_take, List.length_drop]
    omega
  rw [List.getLast?_eq_getElem?, hlen, Token.slice, List.getElem?_take_of_lt (by omega),
    List.getElem?_drop, List.getElem?_eq_getElem hlt]
  rfl

theorem Token.Fits.take {n : Nat} (ht : t.Fits s) (hn : t.position + t.length ≤ n) :
    t.Fits (s.take n) := by
  have hslice : t.slice (s.take n) = t.slice s := by
    rw [Token.slice, Token.slice, List.drop_take, List.take_take]
    congr 1
    omega
  refine ⟨ht.nonempty, ?_, hslice ▸ ht.written, ?_⟩
  · rw [List.length_take]
    exact Nat.le_min.2 ⟨hn, ht.inside⟩
  · intro kind text slice hw hpre
    rw [List.drop_take] at hpre
    exact ht.longest kind text slice hw (hpre.trans (List.take_prefix _ _))

theorem Tiles.trim {n : Nat} (h : Tiles s p q tokens)
    (hblanks : ∀ i c, n ≤ i → i < q → s[i]? = some c → Text.isBlank c = true) :
    (p ≤ n → n ≤ q → Tiles (s.take n) p n tokens) ∧ (n ≤ p → tokens = []) := by
  induction h with
  | done p =>
      refine ⟨fun hle hge => ?_, fun _ => rfl⟩
      obtain rfl := Nat.le_antisymm hle hge
      exact .done p
  | blank hc hblank h ih =>
      obtain ⟨hinner, houter⟩ := ih hblanks
      refine ⟨fun hle hge => ?_, fun hge => houter (by omega)⟩
      rcases Nat.lt_or_eq_of_le hle with hlt | rfl
      · refine .blank ?_ hblank (hinner hlt hge)
        rw [List.getElem?_take_of_lt hlt, hc]
      · rw [houter (by omega)]
        exact .done _
  | @token p q t tokens hp ht h ih =>
      subst hp
      obtain ⟨hinner, houter⟩ := ih hblanks
      have hle := h.le
      have hpos := ht.nonempty
      obtain ⟨c, hc, hvisible⟩ := ht.last
      have hend : t.position + t.length ≤ n := by
        by_contra hgt
        have hblank := hblanks _ c (by omega) (by omega) hc
        rw [hvisible] at hblank
        exact absurd hblank (by simp)
      refine ⟨fun _ hge => .token rfl (ht.take hend) (hinner hend hge), fun hge => ?_⟩
      omega

theorem tokenize_take (hs : ∀ c ∈ s.head?, Text.isBlank c = false) (h : Tiles s 0 q tokens)
    (hq : q ≤ s.length) : ∃ stop,
      tokenize (String.ofList (s.take q)) = .ok (tokens ++ [Token.atEnd stop]) := by
  have hhead : ∀ c ∈ (s.take q).head?, Text.isBlank c = false := by
    intro c hc
    obtain ⟨rest, hrest⟩ := List.take_prefix q s
    apply hs
    rw [← hrest, List.head?_append, Option.mem_def.1 hc]
    rfl
  -- The front may end with blanks, which are stripped; no token reaches into them.
  have hsplit := Text.eq_trimBy_append hhead
  have hstrip : (Text.strip (String.ofList (s.take q))).toList =
      Text.trimBy Text.isBlank (s.take q) := by
    rw [Text.strip, String.toList_ofList, String.toList_ofList]
  generalize hcore : Text.trimBy Text.isBlank (s.take q) = core at hsplit hstrip
  have hlen : core.length ≤ q := by
    have hl := congrArg List.length hsplit
    rw [List.length_take, List.length_append] at hl
    omega
  have htake : s.take core.length = core := by
    rw [← Nat.min_eq_left hlen, ← List.take_take, hsplit, List.take_left]
  have hblanks : ∀ i c, core.length ≤ i → i < q → s[i]? = some c → Text.isBlank c = true := by
    intro i c hge hlt hc
    rw [← List.getElem?_take_of_lt hlt, hsplit, List.getElem?_append_right hge] at hc
    exact List.mem_rtakeWhile_imp (List.mem_of_getElem? hc)
  have htiles := (h.trim hblanks).1 (Nat.zero_le _) hlen
  rw [htake] at htiles
  have hread := htiles.read
  rw [List.drop_zero, List.drop_length, Scan.read_nil] at hread
  refine ⟨core.length, ?_⟩
  rw [tokenize_eq, hstrip, hread]
  simp

/-! ## Tilings by their spans -/

/-- Tokens that cover a text up to a place but for its blanks, each the longest lexeme that
starts where it does. -/
structure Tiling (s : List Char) (stop : Nat) (tokens : List Token) : Prop where
  ordered : tokens.Pairwise fun t u => t.position + t.length ≤ u.position
  within : ∀ t ∈ tokens, t.position + t.length ≤ stop
  fits : ∀ t ∈ tokens, t.Fits s
  inner : ∀ t ∈ tokens, t.kind ≠ .endOfInput
  plain : ∀ t ∈ tokens, t.kind ≠ .string → t.text.toList = t.slice s
  decoded : ∀ t ∈ tokens, t.kind = .string →
    t.text.toList = Lexeme.decode (t.slice s).tail.dropLast
  blanks : ∀ i c, i < stop → s[i]? = some c →
    (∀ t ∈ tokens, i < t.position ∨ t.position + t.length ≤ i) → Text.isBlank c = true

theorem Tiles.fits (h : Tiles s p q tokens) :
    ∀ t ∈ tokens, t.Fits s ∧ p ≤ t.position ∧ t.position + t.length ≤ q := by
  induction h with
  | done => simp
  | blank _ _ _ ih =>
      intro t ht
      obtain ⟨hfits, hle, hstop⟩ := ih t ht
      exact ⟨hfits, by omega, hstop⟩
  | token hp hfits h ih =>
      subst hp
      intro u hu
      rcases List.mem_cons.1 hu with rfl | hu
      · exact ⟨hfits, Nat.le_refl _, h.le⟩
      · obtain ⟨hfits', hle, hstop⟩ := ih u hu
        exact ⟨hfits', by omega, hstop⟩

theorem Tiles.ordered (h : Tiles s p q tokens) :
    tokens.Pairwise fun t u => t.position + t.length ≤ u.position := by
  induction h with
  | done => exact .nil
  | blank _ _ _ ih => exact ih
  | token hp _ h ih =>
      subst hp
      exact .cons (fun u hu => (h.fits u hu).2.1) ih

theorem Tiles.blanks (h : Tiles s p q tokens) {i : Nat} {c : Char} (hp : p ≤ i) (hq : i < q)
    (hc : s[i]? = some c) (hout : ∀ t ∈ tokens, i < t.position ∨ t.position + t.length ≤ i) :
    Text.isBlank c = true := by
  induction h with
  | done => omega
  | @blank p q d tokens hd hblank h ih =>
      rcases Nat.eq_or_lt_of_le hp with rfl | hlt
      · rw [hd] at hc
        exact Option.some.inj hc ▸ hblank
      · exact ih hlt hq hout
  | @token p q t tokens hpos _ h ih =>
      have ht := hout t List.mem_cons_self
      exact ih (by omega) hq fun u hu => hout u (List.mem_cons_of_mem t hu)

theorem Lexeme.Written.kind_ne {kind : TokenKind} {text slice : List Char}
    (h : Lexeme.Written kind text slice) : kind ≠ .endOfInput := by
  cases h with
  | string => exact TokenKind.noConfusion
  | number => exact TokenKind.noConfusion
  | sign hmem =>
      rintro rfl
      exact Lexeme.kind_not_mem_of_sign hmem (by simp)
  | word => exact Lexeme.wordKind_ne (by decide) (by decide) _

theorem Lexeme.Written.text_of_ne {kind : TokenKind} {text slice : List Char}
    (h : Lexeme.Written kind text slice) (hk : kind ≠ .string) : text = slice := by
  cases h with
  | string => exact absurd rfl hk
  | _ => rfl

theorem Lexeme.Written.text_of_string {kind : TokenKind} {text slice : List Char}
    (h : Lexeme.Written kind text slice) (hk : kind = .string) :
    text = Lexeme.decode slice.tail.dropLast := by
  obtain ⟨quote, body, -, -, rfl, rfl⟩ := h.of_string hk
  simp

theorem Tiles.tiling (h : Tiles s 0 q tokens) : Tiling s q tokens where
  ordered := h.ordered
  within t ht := (h.fits t ht).2.2
  fits t ht := (h.fits t ht).1
  inner t ht := (h.fits t ht).1.written.kind_ne
  plain t ht := (h.fits t ht).1.written.text_of_ne
  decoded t ht := (h.fits t ht).1.written.text_of_string
  blanks i _ hlt hc hout := h.blanks (Nat.zero_le i) hlt hc hout

theorem Tiles.skip {r : Nat} (h : Tiles s r q tokens) (hle : p ≤ r) (hr : r ≤ s.length)
    (hblanks : ∀ i c, p ≤ i → i < r → s[i]? = some c → Text.isBlank c = true) :
    Tiles s p q tokens := by
  induction hn : r - p generalizing p with
  | zero =>
      obtain rfl : p = r := by omega
      exact h
  | succ n ih =>
      have hlt : p < s.length := by omega
      have hc := List.getElem?_eq_getElem hlt
      refine .blank hc (hblanks p _ (Nat.le_refl p) (by omega) hc) (ih (by omega) ?_ (by omega))
      intro i c hi
      exact hblanks i c (by omega)

theorem tiles_of_spans (hordered : tokens.Pairwise fun t u => t.position + t.length ≤ u.position)
    (hwithin : ∀ t ∈ tokens, p ≤ t.position ∧ t.position + t.length ≤ q)
    (hfits : ∀ t ∈ tokens, t.Fits s) (hq : p ≤ q) (hs : q ≤ s.length)
    (hblanks : ∀ i c, p ≤ i → i < q → s[i]? = some c →
      (∀ t ∈ tokens, i < t.position ∨ t.position + t.length ≤ i) → Text.isBlank c = true) :
    Tiles s p q tokens := by
  induction tokens generalizing p with
  | nil =>
      refine (Tiles.done q).skip hq hs fun i c hi hlt hc => ?_
      exact hblanks i c hi hlt hc (by simp)
  | cons t rest ih =>
      obtain ⟨hfollow, hrest⟩ := List.pairwise_cons.1 hordered
      obtain ⟨hle, hstop⟩ := hwithin t List.mem_cons_self
      have hafter : Tiles s (t.position + t.length) q rest := by
        refine ih hrest ?_ (fun u hu => hfits u (List.mem_cons_of_mem t hu)) hstop ?_
        · intro u hu
          exact ⟨hfollow u hu, (hwithin u (List.mem_cons_of_mem t hu)).2⟩
        · intro i c hi hlt hc hout
          refine hblanks i c (by omega) hlt hc fun u hu => ?_
          rcases List.mem_cons.1 hu with rfl | hu
          · exact Or.inr hi
          · exact hout u hu
      refine (Tiles.token rfl (hfits t List.mem_cons_self) hafter).skip hle (by omega) ?_
      intro i c hi hlt hc
      refine hblanks i c hi (by omega) hc fun u hu => Or.inl ?_
      rcases List.mem_cons.1 hu with rfl | hu
      · exact hlt
      · have hu := hfollow u hu
        omega

theorem Tiling.tiles (h : Tiling s q tokens) (hs : q ≤ s.length) : Tiles s 0 q tokens := by
  refine tiles_of_spans h.ordered ?_ h.fits (Nat.zero_le q) hs ?_
  · exact fun t ht => ⟨Nat.zero_le _, h.within t ht⟩
  · exact fun i c _ hlt hc hout => h.blanks i c hlt hc hout

/-! ## Reading a text -/

theorem faulty_unique {fault fault' : LexicalFault} {c : Char} {rest : List Char}
    (h : Lexeme.Faulty fault c rest) (h' : Lexeme.Faulty fault' c rest) : fault = fault' := by
  have hbang : ¬('!' = '"' ∨ '!' = '\'') := by decide
  have hquote : ∀ {d : Char}, d = '"' ∨ d = '\'' →
      d ∈ ['"', '\'', '=', '!', '<', '>', '(', ')', ','] := by
    rintro d (rfl | rfl) <;> simp
  have hsign : '!' ∈ ['"', '\'', '=', '!', '<', '>', '(', ')', ','] := by simp
  -- Each reason says which characters it is about, and these exclude each other.
  cases fault <;> cases fault'
  case unclosedString.invalidOperator => exact absurd (h'.1 ▸ h.1) hbang
  case invalidOperator.unclosedString => exact absurd (h.1 ▸ h'.1) hbang
  case unclosedString.unexpectedCharacter => exact absurd (hquote h.1) h'.1
  case unexpectedCharacter.unclosedString => exact absurd (hquote h'.1) h.1
  case invalidOperator.unexpectedCharacter => exact absurd (h.1 ▸ hsign) h'.1
  case unexpectedCharacter.invalidOperator => exact absurd (h'.1 ▸ hsign) h.1
  all_goals rfl

theorem SyntaxError.Holds.read {e : SyntaxError} (h : e.Holds s) :
    ∃ position, Scan.read e.position (s.drop e.position) =
      { tokens := [], position, fault := some e } := by
  have hdrop := drop_of_getElem? h.character
  rw [hdrop, Scan.read.eq_def]
  dsimp only
  rw [if_neg (by simp [h.visible])]
  split
  · rename_i fault hread
    have hfault : fault = e.fault := faulty_unique (Lexeme.faulty_of_read hread) h.faulty
    exact ⟨_, by rw [hfault]⟩
  · rename_i lexeme hread
    obtain ⟨-, hwritten⟩ := Lexeme.stands_of_read hread
    exact absurd (hdrop ▸ List.take_prefix _ _) (h.nothing _ _ _ hwritten)

theorem Tiling.scan (h : Tiling s s.length tokens) :
    Scan.read 0 s = { tokens, position := s.length, fault := none } := by
  have hread := (h.tiles (Nat.le_refl _)).read
  rw [List.drop_zero, List.drop_length, Scan.read_nil] at hread
  rw [hread]
  simp

theorem SyntaxError.Holds.scan {e : SyntaxError} (h : e.Holds s)
    (ht : Tiling s e.position tokens) :
    ∃ position, Scan.read 0 s = { tokens, position, fault := some e } := by
  have hlt := (List.getElem?_eq_some_iff.1 h.character).1
  have hread := (ht.tiles (Nat.le_of_lt hlt)).read
  obtain ⟨position, hstop⟩ := h.read
  rw [List.drop_zero, hstop] at hread
  refine ⟨position, ?_⟩
  rw [hread]
  simp

theorem tokenize_of_scan {text : String} {position : Nat}
    (h : Scan.read 0 (Text.strip text).toList = { tokens, position, fault := none }) :
    tokenize text = .ok (tokens ++ [Token.atEnd position]) := by
  rw [tokenize_eq, h]

theorem tokenize_of_scan_error {text : String} {position : Nat} {e : SyntaxError}
    (h : Scan.read 0 (Text.strip text).toList = { tokens, position, fault := some e }) :
    tokenize text = .error e ∧ (Scanner.ofText text).advance.1.tokens = tokens := by
  rw [tokenize_eq]
  simp [Scanner.advance, Scanner.ofText, h]

theorem tiling_of_tokenize {text : String} (h : tokenize text = .ok tokens) :
    ∃ inner, tokens = inner ++ [Token.atEnd (Text.strip text).toList.length] ∧
      Tiling (Text.strip text).toList (Text.strip text).toList.length inner := by
  have hreaches : (Scan.read 0 (Text.strip text).toList).Reaches (Text.strip text).toList 0 :=
    Scan.reaches_read _ (Nat.zero_le _) List.drop_zero
  cases hscan : Scan.read 0 (Text.strip text).toList with
  | mk inner position fault =>
    rw [hscan] at hreaches
    cases fault with
    | none =>
        obtain ⟨hposition, htiles⟩ := hreaches.of_none rfl
        refine ⟨inner, ?_, htiles.tiling⟩
        rw [← hposition]
        exact Except.ok.inj (h.symm.trans (tokenize_of_scan hscan))
    | some e => exact absurd (h.symm.trans (tokenize_of_scan_error hscan).1) (by simp)

theorem holds_of_tokenize {text : String} {e : SyntaxError} (h : tokenize text = .error e) :
    e.Holds (Text.strip text).toList ∧
      Tiling (Text.strip text).toList e.position (Scanner.ofText text).advance.1.tokens := by
  have hreaches : (Scan.read 0 (Text.strip text).toList).Reaches (Text.strip text).toList 0 :=
    Scan.reaches_read _ (Nat.zero_le _) List.drop_zero
  cases hscan : Scan.read 0 (Text.strip text).toList with
  | mk held position fault =>
    rw [hscan] at hreaches
    cases fault with
    | none => exact absurd (h.symm.trans (tokenize_of_scan hscan)) (by simp)
    | some e' =>
        obtain ⟨herror, hheld⟩ := tokenize_of_scan_error hscan
        obtain rfl := Except.error.inj (h.symm.trans herror)
        obtain ⟨hholds, htiles⟩ := hreaches.of_some rfl
        rw [hheld]
        exact ⟨hholds, htiles.tiling⟩

/-- A text is read exactly if it is covered by blanks and by tokens that are each the longest
lexeme at their place; these are the tokens, and the end of the input stands behind the
text. A text is refused at a place exactly if it is covered in this way up to there and no
lexeme starts there; the tokens held are those of the text in front of that place. -/
theorem tokenize_tiles (text : String) :
    (∀ tokens, tokenize text = .ok tokens ↔ ∃ inner,
      tokens = inner ++ [Token.atEnd (Scanner.ofText text).text.length] ∧
        Tiling (Scanner.ofText text).text (Scanner.ofText text).text.length inner) ∧
    ∀ e, (tokenize text = .error e ↔
        e.Holds (Scanner.ofText text).text ∧
          ∃ held, Tiling (Scanner.ofText text).text e.position held) ∧
      (tokenize text = .error e → ∃ stop,
        tokenize (String.ofList ((Scanner.ofText text).text.take e.position)) =
          .ok ((Scanner.ofText text).advance.1.tokens ++ [Token.atEnd stop])) := by
  have htext : (Scanner.ofText text).text = (Text.strip text).toList := by
    simp only [Scanner.ofText]
  have hhead : ∀ c ∈ (Text.strip text).toList.head?, Text.isBlank c = false := by
    rw [Text.strip, String.toList_ofList]
    exact Text.head?_trimBy Text.isBlank text.toList
  rw [htext]
  refine ⟨fun tokens => ⟨tiling_of_tokenize, ?_⟩, fun e => ⟨⟨?_, ?_⟩, ?_⟩⟩
  · rintro ⟨inner, rfl, htiling⟩
    exact tokenize_of_scan htiling.scan
  · intro h
    obtain ⟨hholds, htiling⟩ := holds_of_tokenize h
    exact ⟨hholds, _, htiling⟩
  · rintro ⟨hholds, held, htiling⟩
    obtain ⟨position, hscan⟩ := hholds.scan htiling
    exact (tokenize_of_scan_error hscan).1
  · intro h
    obtain ⟨hholds, htiling⟩ := holds_of_tokenize h
    have hle := Nat.le_of_lt (List.getElem?_eq_some_iff.1 hholds.character).1
    exact tokenize_take hhead (htiling.tiles hle) hle

end TaskQuery.Query
