import TaskQuery.Proofs.Query.Spelling
/-!
# Texts in another layout

The same lexemes with other blanks between them, and the words among them in other letters,
are read as the same tokens at other places. This holds for a text by itself and for one
that stands inside of another text.
-/

namespace TaskQuery.Query

open Lexeme (EndsBefore Breaks)

/-- A text of the lexemes that tokens span from a place of `s` on, each written as in `s` or
in other letters. Any blanks stand around them, at least one where `s` has some between the
place and the lexeme. -/
inductive Relaid (s : List Char) : Nat → List Token → List Char → Prop where
  | done {p : Nat} {gap : List Char} (blank : ∀ c ∈ gap, Text.isBlank c = true) :
      Relaid s p [] gap
  | token {p : Nat} {t : Token} {tokens : List Token} {gap word cs : List Char}
      (blank : ∀ c ∈ gap, Text.isBlank c = true) (kept : p < t.position → gap ≠ [])
      (spelled : Respells t.kind (t.slice s) word)
      (h : Relaid s (t.position + t.length) tokens cs) :
      Relaid s p (t :: tokens) (gap ++ (word ++ cs))

variable {s cs gap rest word : List Char} {p q : Nat} {t : Token} {tokens others : List Token}

/-! ## Every text is a layout of its own tokens -/

theorem Relaid.blank {c : Char} (h : Relaid s q tokens cs) (hc : Text.isBlank c = true)
    (p : Nat) : Relaid s p tokens (c :: cs) := by
  cases h with
  | done blank => exact .done (List.forall_mem_cons.2 ⟨hc, blank⟩)
  | token blank kept spelled h =>
      exact .token (List.forall_mem_cons.2 ⟨hc, blank⟩) (fun _ => List.cons_ne_nil c _) spelled h

theorem Relaid.before (h : Relaid s p tokens cs) (hgap : ∀ c ∈ gap, Text.isBlank c = true) :
    Relaid s p tokens (gap ++ cs) := by
  induction gap with
  | nil => exact h
  | cons c gap ih =>
      have hrest := ih fun d hd => hgap d (List.mem_cons_of_mem c hd)
      exact hrest.blank (hgap c List.mem_cons_self) p

theorem Relaid.behind (h : Relaid s p tokens cs) (hgap : ∀ c ∈ gap, Text.isBlank c = true) :
    Relaid s p tokens (cs ++ gap) := by
  induction h with
  | done blank =>
      apply Relaid.done
      intro c hc
      exact (List.mem_append.1 hc).elim (blank c) (hgap c)
  | token blank kept spelled h ih =>
      rw [List.append_assoc, List.append_assoc]
      exact .token blank kept spelled ih

theorem Tiles.relaid (h : Tiles s p q tokens) (hq : q = s.length) :
    Relaid s p tokens (s.drop p) := by
  induction h with
  | done p =>
      rw [hq, List.drop_length]
      exact .done (by simp)
  | blank hc hblank h ih =>
      rw [drop_of_getElem? hc]
      exact (ih hq).blank hblank _
  | @token p q t tokens hp ht h ih =>
      subst hp
      have hsplit : s.drop t.position = [] ++ (t.slice s ++ s.drop (t.position + t.length)) := by
        rw [List.nil_append, Token.slice, ← List.drop_drop, List.take_append_drop]
      rw [hsplit]
      exact .token (by simp) (fun hlt => absurd hlt (Nat.lt_irrefl _)) (Or.inl rfl) (ih hq)

/-! ## A layout is read as its tokens -/

theorem Tiles.cons (h : Tiles s p q (t :: tokens)) :
    p ≤ t.position ∧ t.Fits s ∧ Tiles s (t.position + t.length) q tokens := by
  generalize hts : t :: tokens = ts at h
  induction h with
  | done => cases hts
  | blank hc hblank h ih =>
      obtain ⟨hle, hrest⟩ := ih hts
      exact ⟨by omega, hrest⟩
  | token hp ht h =>
      obtain ⟨rfl, rfl⟩ := List.cons.inj hts
      subst hp
      exact ⟨Nat.le_refl _, ht, h⟩

theorem breaks_of_gap (hne : gap ≠ []) (hgap : ∀ c ∈ gap, Text.isBlank c = true)
    (cs : List Char) : ∀ d ∈ (gap ++ cs).head?, Breaks d := by
  obtain ⟨c, blanks, rfl⟩ := List.exists_cons_of_ne_nil hne
  intro d hd
  obtain rfl : c = d := by simpa using hd
  exact Lexeme.breaks_of_isBlank (hgap c List.mem_cons_self)

theorem Token.Fits.respelled_head {u : Token} (hu : u.Fits s)
    (hspelled : Respells u.kind (u.slice s) word) : ∃ c d tail, word = d :: tail ∧
      s[u.position]? = some c ∧ c ≠ '.' ∧ c.toUpper = d.toUpper := by
  obtain ⟨c, hdrop, -⟩ := hu.head
  obtain ⟨content, hwritten, -⟩ := hspelled.written hu.written
  obtain ⟨d, tail, rfl⟩ := List.exists_cons_of_ne_nil hwritten.ne_nil
  have hslice : u.slice s = c :: (s.drop (u.position + 1)).take (u.length - 1) := by
    obtain ⟨n, hn⟩ := Nat.exists_eq_add_of_lt hu.nonempty
    rw [Token.slice, hdrop, hn, List.take_succ_cons]
    simp
  have hfirst := hu.written
  have hmap := hspelled.map_toUpper
  rw [hslice] at hfirst hmap
  exact ⟨c, d, tail, rfl, getElem?_of_drop hdrop, hfirst.head_ne_point, (List.cons.inj hmap).1⟩

theorem Relaid.endsBefore (ht : t.Fits s) (hspelled : Respells t.kind (t.slice s) word)
    (hrest : ∀ d ∈ rest.head?, Breaks d) (htiles : Tiles s (t.position + t.length) q tokens)
    (h : Relaid s (t.position + t.length) tokens cs) : EndsBefore word (cs ++ rest) := by
  obtain ⟨content, hwritten, -⟩ := hspelled.written ht.written
  cases h with
  | done blank =>
      by_cases hgap : cs = []
      · subst hgap
        exact Lexeme.endsBefore_of_breaks hwritten hrest
      · exact Lexeme.endsBefore_of_breaks hwritten (breaks_of_gap hgap blank rest)
  | @token _ u others gap next cs blank kept spelled h =>
      rw [List.append_assoc]
      by_cases hgap : gap = []
      · -- Without a blank the tokens are neighbours, here and in the text.
        subst hgap
        obtain ⟨hle, hu, -⟩ := htiles.cons
        have hplace : t.position + t.length = u.position := by
          by_contra hne
          exact kept (by omega) rfl
        obtain ⟨c, d, tail, rfl, hnext, hpoint, hcase⟩ := hu.respelled_head spelled
        exact ht.endsBefore (hplace ▸ hnext) hpoint hspelled hcase _
      · exact Lexeme.endsBefore_of_breaks hwritten (breaks_of_gap hgap blank _)

/-- A scan passes over a layout with the tokens of the text, in front of whatever ends a
lexeme. -/
theorem Relaid.passes (h : Relaid s p tokens cs) (htiles : Tiles s p q tokens)
    (hrest : ∀ d ∈ rest.head?, Breaks d) (start : Nat) :
    ∃ others, Scan.Passes start cs rest others ∧
      List.Forall₂ Token.Respelled tokens others := by
  induction h generalizing start with
  | done blank => exact ⟨[], .gap blank start rest, .nil⟩
  | @token p t tokens gap word cs blank kept spelled h ih =>
      obtain ⟨-, ht, hafter⟩ := htiles.cons
      obtain ⟨others, hothers, hsame⟩ := ih hafter (start + gap.length + word.length)
      obtain ⟨content, hwritten, hcontent⟩ := spelled.written ht.written
      have hends := h.endsBefore ht spelled hrest hafter
      have hword := Scan.Passes.lexeme hwritten hends (start + gap.length)
      have hgap := Scan.Passes.gap blank start (word ++ cs ++ rest)
      have hpass := hword.append hothers
      refine ⟨_, hgap.append hpass, .cons ⟨rfl, ?_, ?_⟩ hsame⟩
      · have hinside := ht.inside
        rw [← spelled.length_eq, Token.slice, List.length_take, List.length_drop]
        dsimp only
        omega
      · rw [String.toList_ofList]
        exact hcontent

/-! ## Whole texts -/

variable {text other : String} {stop : Nat}

theorem toList_strip (text : String) :
    (Text.strip text).toList = Text.trimBy Text.isBlank text.toList := by
  rw [Text.strip, String.toList_ofList]

theorem tiles_of_tokenize (h : tokenize text = .ok (tokens ++ [Token.atEnd stop])) :
    Tiles (Text.strip text).toList 0 (Text.strip text).toList.length tokens := by
  obtain ⟨inner, heq, htiling⟩ := tiling_of_tokenize h
  have hlength : ∀ n, [Token.atEnd stop].length = [Token.atEnd n].length := fun _ => rfl
  obtain ⟨rfl, -⟩ := List.append_inj' heq (hlength _)
  exact htiling.tiles (Nat.le_refl _)

theorem relaid_of_tokenize (h : tokenize text = .ok (tokens ++ [Token.atEnd stop])) :
    Relaid (Text.strip text).toList 0 tokens text.toList := by
  obtain ⟨front, back, hsplit, hfront, hback⟩ :=
    Text.exists_around_trimBy Text.isBlank text.toList
  rw [← toList_strip] at hsplit
  have hself := (tiles_of_tokenize h).relaid rfl
  rw [List.drop_zero] at hself
  rw [hsplit]
  exact (hself.behind hback).before hfront

theorem Relaid.dropWhile (h : Relaid s p tokens cs) (htiles : Tiles s p q tokens)
    (hfirst : ∀ t ∈ tokens.head?, t.position = p) :
    Relaid s p tokens (cs.dropWhile Text.isBlank) := by
  cases h with
  | done blank =>
      rw [List.dropWhile_eq_nil_iff.2 blank]
      exact .done (by simp)
  | @token _ t tokens gap word cs blank kept spelled h =>
      obtain ⟨-, ht, -⟩ := htiles.cons
      obtain ⟨content, hwritten, -⟩ := spelled.written ht.written
      obtain ⟨c, w, rfl⟩ := List.exists_cons_of_ne_nil hwritten.ne_nil
      have hvisible : Text.isBlank c = false := hwritten.visible.1 c rfl
      have hdrop : (gap ++ (c :: w ++ cs)).dropWhile Text.isBlank = [] ++ (c :: w ++ cs) := by
        rw [List.dropWhile_append_of_pos blank]
        exact Text.dropWhile_eq_self (by simpa using hvisible)
      rw [hdrop]
      refine .token (by simp) (fun hlt => ?_) spelled h
      rw [hfirst t rfl] at hlt
      exact absurd hlt (Nat.lt_irrefl p)

theorem Tiles.first (h : Tiles s 0 q tokens) (hs : ∀ c ∈ s.head?, Text.isBlank c = false) :
    ∀ t ∈ tokens.head?, t.position = 0 := by
  cases h with
  | done => simp
  | blank hc hblank h =>
      rw [← List.head?_eq_getElem?] at hc
      have hvisible := hs _ hc
      rw [hblank] at hvisible
      exact absurd hvisible (by simp)
  | token hp ht h =>
      intro t hmem
      obtain rfl := Option.some.inj hmem
      exact hp

/-- A text in another layout is read as the same tokens at other places. -/
theorem tokenize_relaid (h : tokenize text = .ok (tokens ++ [Token.atEnd stop]))
    (hlaid : Relaid (Text.strip text).toList 0 tokens other.toList) :
    ∃ others stop', tokenize other = .ok (others ++ [Token.atEnd stop']) ∧
      List.Forall₂ Token.Respelled tokens others := by
  have htiles := tiles_of_tokenize h
  have hhead : ∀ c ∈ (Text.strip text).toList.head?, Text.isBlank c = false := by
    rw [toList_strip]
    exact Text.head?_trimBy Text.isBlank text.toList
  have hfront := hlaid.dropWhile htiles (htiles.first hhead)
  generalize hds : other.toList.dropWhile Text.isBlank = ds at hfront
  have hend : ∀ d ∈ ([] : List Char).head?, Breaks d := by simp
  obtain ⟨others, hpass, hsame⟩ := hfront.passes htiles hend 0
  -- The scan of the second text makes a tiling of it, blanks behind it included.
  have hreaches := Scan.reaches_read ds (Nat.zero_le ds.length) List.drop_zero
  rw [hpass.read] at hreaches
  obtain ⟨-, hothers⟩ := hreaches.of_none rfl
  have hvisible : ∀ c ∈ ds.head?, Text.isBlank c = false :=
    hds ▸ Text.head?_dropWhile Text.isBlank other.toList
  obtain ⟨stop', htokens⟩ := tokenize_take hvisible hothers (Nat.le_refl _)
  have hstrip : Text.strip (String.ofList (ds.take ds.length)) = Text.strip other := by
    rw [List.take_length, Text.strip, String.toList_ofList, ← hds, Text.trimBy_dropWhile,
      Text.strip]
  refine ⟨others, stop', ?_, hsame⟩
  rw [tokenize_eq, hstrip, ← tokenize_eq] at htokens
  exact htokens

end TaskQuery.Query
