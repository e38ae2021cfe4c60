import TaskQuery.Proofs.Query.Canonical
import TaskQuery.Proofs.Query.Spacing
/-!
# Printing

How a tree is written as a query text, and that the text is read as the tree again. Where a
literal can be written in several ways, so can the tree, and each of its texts is read as the
tree.
-/

namespace TaskQuery

namespace Query

/-- The characters of a string literal, with a backslash in front of each quote of its kind
and of each backslash. -/
def escape (quote : Char) (cs : List Char) : List Char :=
  cs.flatMap fun c => if c = quote ∨ c = '\\' then ['\\', c] else [c]

end Query

open Query

/-- The ways to write a value as one literal: a string between quotes of either kind, an
integer by its digits and a double by a decimal expansion. -/
inductive Value.Prints : Value → List Char → Prop where
  | null : Prints .null "NULL".toList
  | text {quote : Char} (s : String) (hquote : quote = '"' ∨ quote = '\'') :
      Prints (.text s) (quote :: (escape quote s.toList ++ [quote]))
  | int {ds : List Char} (nonempty : ds ≠ []) (digits : ∀ d ∈ ds, d.isDigit = true)
      (limit : ds.length ≤ Number.digitLimit) : Prints (.int (Number.ofDigits ds)) ds
  | float {d : Double} {cs : List Char} (h : Number.Expansion d cs) : Prints (.float d) cs

namespace Query

inductive PrintsItems : List Value → List (List Char) → Prop where
  | one {v : Value} {word : List Char} (h : v.Prints word) : PrintsItems [v] [word]
  | more {vs : List Value} {words : List (List Char)} {v : Value} {word : List Char}
      (front : PrintsItems vs words) (h : v.Prints word) :
      PrintsItems (vs ++ [v]) (words ++ [[','], word])

inductive PrintsListing : List Value → List (List Char) → Prop where
  | empty : PrintsListing [] [['('], [')']]
  | filled {vs : List Value} {words : List (List Char)} (h : PrintsItems vs words) :
      PrintsListing vs (['('] :: words ++ [[')']])

def Operator.isBinary : Operator → Bool
  | .eq | .ne | .gt | .ge | .lt | .le | .like | .contains => true
  | .within | .notWithin | .isNull | .isNotNull | .between => false

inductive PrintsTest : Operator → Value → List (List Char) → Prop where
  | isNull : PrintsTest .isNull .null ["IS".toList, "NULL".toList]
  | isNotNull : PrintsTest .isNotNull .null ["IS".toList, "NOT".toList, "NULL".toList]
  | within {items : List Value} {words : List (List Char)} (h : PrintsListing items words) :
      PrintsTest .within (.list items) ("IN".toList :: words)
  | notWithin {items : List Value} {words : List (List Char)} (h : PrintsListing items words) :
      PrintsTest .notWithin (.list items) ("NOT".toList :: "IN".toList :: words)
  | between {low high : Value} {lower upper : List Char} (hlow : low.Prints lower)
      (hhigh : high.Prints upper) : PrintsTest .between (.list [low, high])
        ["BETWEEN".toList, lower, "AND".toList, upper]
  | binary {op : Operator} {v : Value} {word : List Char} (hop : op.isBinary = true)
      (h : v.Prints word) : PrintsTest op v [op.symbol.toList, word]

inductive Expr.Prints : Expr → List (List Char) → Prop where
  | comparison {op : Operator} {value : Value} {words : List (List Char)} (field : String)
      (h : PrintsTest op value words) :
      Prints (.comparison field op value) (field.toList :: words)
  | or {left right : Expr} {front back : List (List Char)} (hleft : Prints left front)
      (hright : Prints right back) : Prints (.or left right) (front ++ "OR".toList :: back)
  | and {left right : Expr} {front back : List (List Char)} (hleft : Prints left front)
      (hright : Prints right back) : Prints (.and left right) (front ++ "AND".toList :: back)
  | not {operand : Expr} {words : List (List Char)} (h : Prints operand words) :
      Prints (.not operand) ("NOT".toList :: words)
  | group {inner : Expr} {words : List (List Char)} (h : Prints inner words) :
      Prints (.group inner) (['('] :: words ++ [[')']])

/-- A text that writes a tree. -/
def Expr.PrintedAs (query : Expr) (text : String) : Prop :=
  ∃ words, query.Prints words ∧ Spaced words text.toList

variable {v : Value} {word content : List Char} {words : List (List Char)} {t : Token}
  {tokens : List Token} {quote : Char} {kind : TokenKind}

/-! ## Literals -/

theorem escape_cons (quote c : Char) (cs : List Char) :
    escape quote (c :: cs) =
      (if c = quote ∨ c = '\\' then ['\\', c] else [c]) ++ escape quote cs := rfl

/-- An escaped text can stand between its quotes, and stands for the text. -/
theorem body_escape (hquote : quote = '"' ∨ quote = '\'') (cs : List Char) :
    Lexeme.Body quote (escape quote cs) ∧ Lexeme.decode (escape quote cs) = cs := by
  induction cs with
  | nil => exact ⟨.empty, rfl⟩
  | cons c cs ih =>
      obtain ⟨hbody, hdecode⟩ := ih
      rw [escape_cons]
      by_cases hc : c = quote ∨ c = '\\'
      · have hplain : Lexeme.unescape c = c := by
          rcases hc with rfl | rfl
          · rcases hquote with rfl | rfl <;> decide
          · decide
        rw [if_pos hc]
        refine ⟨.escaped c hbody, ?_⟩
        simp [Lexeme.decode, hplain, hdecode]
      · obtain ⟨hne, hescape⟩ := not_or.1 hc
        rw [if_neg hc]
        refine ⟨.plain hne hescape hbody, ?_⟩
        rw [List.singleton_append, Lexeme.decode_plain hescape, hdecode]

theorem written_keyword (kind : TokenKind) (h : kind ∈ TokenKind.keywords.map Prod.snd) :
    Lexeme.Written kind kind.name.toList kind.name.toList := by
  have hall : ∀ kind ∈ TokenKind.keywords.map Prod.snd, kind.name.toList ≠ [] ∧
      kind.name.toList.all Lexeme.startsWord = true ∧
        Lexeme.wordKind kind.name.toList = kind := by decide
  obtain ⟨hne, hletters, hkind⟩ := hall kind h
  rw [List.all_eq_true] at hletters
  obtain ⟨c, rest, hname⟩ := List.exists_cons_of_ne_nil hne
  rw [hname] at hletters hkind ⊢
  have hword := Lexeme.Written.word (hletters c List.mem_cons_self) fun d hd =>
    Lexeme.continuesWord_iff.2 (Or.inl (hletters d (List.mem_cons_of_mem c hd)))
  rwa [hkind] at hword

theorem written_string (hquote : quote = '"' ∨ quote = '\'') (cs : List Char) :
    Lexeme.Written .string cs (quote :: (escape quote cs ++ [quote])) := by
  obtain ⟨hbody, hdecode⟩ := body_escape hquote cs
  have h := Lexeme.Written.string hquote hbody
  rwa [hdecode] at h

theorem written_unique {kind' : TokenKind} {content' : List Char}
    (h : Lexeme.Written kind content word) (h' : Lexeme.Written kind' content' word) :
    kind = kind' ∧ content = content' := by
  obtain ⟨c, w, rfl⟩ := List.exists_cons_of_ne_nil h.ne_nil
  have hend := Lexeme.endsBefore_nil (c :: w)
  obtain ⟨lexeme, hread, hkind, htext, -⟩ := Lexeme.read_exact h hend
  obtain ⟨lexeme', hread', hkind', htext', -⟩ := Lexeme.read_exact h' hend
  obtain rfl := Except.ok.inj (hread.symm.trans hread')
  exact ⟨hkind.symm.trans hkind', htext.symm.trans htext'⟩

theorem written_symbol {op : Operator} (h : op.isBinary = true) :
    ∃ kind, Operator.ofToken? kind = some op ∧
      Lexeme.Written kind op.symbol.toList op.symbol.toList := by
  cases op with
  | eq => exact ⟨.equals, rfl, .sign (by decide)⟩
  | ne => exact ⟨.notEquals, rfl, .sign (by decide)⟩
  | gt => exact ⟨.greaterThan, rfl, .sign (by decide)⟩
  | ge => exact ⟨.greaterEqual, rfl, .sign (by decide)⟩
  | lt => exact ⟨.lessThan, rfl, .sign (by decide)⟩
  | le => exact ⟨.lessEqual, rfl, .sign (by decide)⟩
  | like => exact ⟨.like, rfl, written_keyword .like (by decide)⟩
  | contains => exact ⟨.contains, rfl, written_keyword .contains (by decide)⟩
  | _ => exact absurd h (by decide)

/-! ## Tokens -/

theorem kind_of_keyword (kind : TokenKind) (h : t.IsReadFrom kind.name.toList)
    (hk : kind ∈ TokenKind.keywords.map Prod.snd) : t.kind = kind :=
  (written_unique h (written_keyword kind hk)).1

theorem kind_of_sign (h : t.IsReadFrom word) (hs : (word, kind) ∈ Lexeme.signs) :
    t.kind = kind :=
  (written_unique h (.sign hs)).1

theorem valueOf?_of_prints (hv : v.Prints word) (ht : t.IsReadFrom word) :
    Grammar.valueOf? t = some v := by
  cases hv with
  | null =>
      have hk := kind_of_keyword .null ht (by decide)
      rw [Grammar.valueOf?, hk]
  | text s hquote =>
      obtain ⟨hk, htext⟩ := written_unique ht (written_string hquote s.toList)
      rw [Grammar.valueOf?, hk, String.toList_inj.1 htext]
  | int nonempty digits limit =>
      obtain ⟨hk, htext⟩ := written_unique ht (.number (.integer nonempty digits))
      have hpoint : ¬ t.text.toList.contains '.' = true := by
        intro hm
        rw [htext] at hm
        exact absurd (digits '.' (by simpa using hm)) (by decide)
      have hread : Number.readInt? Number.digitLimit t.text = _ :=
        Number.readInt?_digits (htext ▸ nonempty) (htext ▸ digits)
      rw [← String.length_toList, htext, if_pos limit] at hread
      rw [Grammar.valueOf?, hk]
      dsimp only
      rw [Grammar.numberOf?, if_neg hpoint, hread]
      rfl
  | float h =>
      obtain ⟨hk, htext⟩ := written_unique ht (.number h.numeral)
      have hpoint : t.text.toList.contains '.' = true := by
        rw [htext]
        simpa using h.point_mem
      rw [Grammar.valueOf?, hk]
      dsimp only
      rw [Grammar.numberOf?, if_pos hpoint, Number.Expansion.read (htext ▸ h)]
      rfl

/-! ## Derivations -/

open Grammar

theorem forall₂_append {a b : List (List Char)}
    (h : List.Forall₂ Token.IsReadFrom tokens (a ++ b)) : ∃ front back, tokens = front ++ back ∧
      List.Forall₂ Token.IsReadFrom front a ∧ List.Forall₂ Token.IsReadFrom back b :=
  ⟨_, _, (List.take_append_drop a.length tokens).symm, List.forall₂_take_append _ _ _ h,
    List.forall₂_drop_append _ _ _ h⟩

theorem items_of_prints {vs : List Value} (h : PrintsItems vs words)
    (htokens : List.Forall₂ Token.IsReadFrom tokens words) :
    ∃ items : Items, items.tokens = tokens ∧ items.values = vs := by
  induction h generalizing tokens with
  | one hv =>
      cases htokens with
      | cons ht hnil =>
          cases hnil
          exact ⟨.one ⟨_, _, valueOf?_of_prints hv ht⟩, rfl, rfl⟩
  | more front hv ih =>
      obtain ⟨first, back, rfl, hfirst, hback⟩ := forall₂_append htokens
      obtain ⟨items, rfl, rfl⟩ := ih hfirst
      cases hback with
      | cons hcomma hlast =>
          cases hlast with
          | cons ht hnil =>
              cases hnil
              refine ⟨.more items ⟨_, kind_of_sign hcomma (by decide)⟩
                ⟨_, _, valueOf?_of_prints hv ht⟩, rfl, rfl⟩

theorem listing_of_prints {vs : List Value} (h : PrintsListing vs words)
    (htokens : List.Forall₂ Token.IsReadFrom tokens words) :
    ∃ listing : Listing, listing.tokens = tokens ∧ listing.values = vs := by
  cases h with
  | empty =>
      cases htokens with
      | cons hopening hrest =>
          cases hrest with
          | cons hclosing hnil =>
              cases hnil
              exact ⟨.empty ⟨_, kind_of_sign hopening (by decide)⟩
                ⟨_, kind_of_sign hclosing (by decide)⟩, rfl, rfl⟩
  | filled hitems =>
      obtain ⟨front, back, rfl, hfront, hback⟩ := forall₂_append htokens
      cases hfront with
      | cons hopening hinner =>
          obtain ⟨items, rfl, rfl⟩ := items_of_prints hitems hinner
          cases hback with
          | cons hclosing hnil =>
              cases hnil
              exact ⟨.filled ⟨_, kind_of_sign hopening (by decide)⟩ items
                ⟨_, kind_of_sign hclosing (by decide)⟩, rfl, rfl⟩

theorem test_of_prints {op : Operator} (h : PrintsTest op v words)
    (htokens : List.Forall₂ Token.IsReadFrom tokens words) :
    ∃ test : Test, test.tokens = tokens ∧ test.op = op ∧ test.value = v := by
  cases h with
  | isNull =>
      simp only [List.forall₂_cons_right_iff, List.forall₂_nil_right_iff] at htokens
      obtain ⟨is, _, his, ⟨null, _, hnull, rfl, rfl⟩, rfl⟩ := htokens
      exact ⟨.isNull ⟨is, kind_of_keyword .is his (by decide)⟩
        ⟨null, kind_of_keyword .null hnull (by decide)⟩, rfl, rfl, rfl⟩
  | isNotNull =>
      simp only [List.forall₂_cons_right_iff, List.forall₂_nil_right_iff] at htokens
      obtain ⟨is, _, his, ⟨not, _, hnot, ⟨null, _, hnull, rfl, rfl⟩, rfl⟩, rfl⟩ := htokens
      exact ⟨.isNotNull ⟨is, kind_of_keyword .is his (by decide)⟩
        ⟨not, kind_of_keyword .not hnot (by decide)⟩
        ⟨null, kind_of_keyword .null hnull (by decide)⟩, rfl, rfl, rfl⟩
  | within hlisting =>
      obtain ⟨word, rest, hword, hrest, rfl⟩ := List.forall₂_cons_right_iff.1 htokens
      obtain ⟨listing, rfl, rfl⟩ := listing_of_prints hlisting hrest
      exact ⟨.within ⟨word, kind_of_keyword .within hword (by decide)⟩ listing, rfl, rfl, rfl⟩
  | notWithin hlisting =>
      obtain ⟨not, after, hnot, hafter, rfl⟩ := List.forall₂_cons_right_iff.1 htokens
      obtain ⟨word, rest, hword, hrest, rfl⟩ := List.forall₂_cons_right_iff.1 hafter
      obtain ⟨listing, rfl, rfl⟩ := listing_of_prints hlisting hrest
      exact ⟨.notWithin ⟨not, kind_of_keyword .not hnot (by decide)⟩
        ⟨word, kind_of_keyword .within hword (by decide)⟩ listing, rfl, rfl, rfl⟩
  | between hlow hhigh =>
      simp only [List.forall₂_cons_right_iff, List.forall₂_nil_right_iff] at htokens
      obtain ⟨word, _, hword, ⟨low, _, htlow, ⟨and, _, hand, ⟨high, _, hthigh, rfl, rfl⟩, rfl⟩,
        rfl⟩, rfl⟩ := htokens
      exact ⟨.between ⟨word, kind_of_keyword .between hword (by decide)⟩
        ⟨low, _, valueOf?_of_prints hlow htlow⟩ ⟨and, kind_of_keyword .and hand (by decide)⟩
        ⟨high, _, valueOf?_of_prints hhigh hthigh⟩, rfl, rfl, rfl⟩
  | binary hop hv =>
      simp only [List.forall₂_cons_right_iff, List.forall₂_nil_right_iff] at htokens
      obtain ⟨sign, _, hsign, ⟨value, _, hvalue, rfl, rfl⟩, rfl⟩ := htokens
      obtain ⟨kind, hkind, hwritten⟩ := written_symbol hop
      rw [← (written_unique hsign hwritten).1] at hkind
      exact ⟨.binary ⟨sign, _, hkind⟩ ⟨value, _, valueOf?_of_prints hv hvalue⟩, rfl, rfl, rfl⟩

def Derives (s : Symbol) (tokens : List Token) (query : Expr) : Prop :=
  ∃ d : Derivation s, d.tokens = tokens ∧ d.tree = query

/-- Tokens that are derivable as a tree, from as tight a symbol as its root allows. -/
structure Reads (tokens : List Token) (query : Expr) : Prop where
  disjunction : Derives .disjunction tokens query
  conjunction : query.connective? ≠ some .or → Derives .conjunction tokens query
  negation : query.connective? ≠ some .or → query.connective? ≠ some .and →
    Derives .negation tokens query

theorem reads_of_conjunction {query : Expr} (h : Derives .conjunction tokens query)
    (hand : query.connective? = some .and) : Reads tokens query := by
  obtain ⟨d, hd, htree⟩ := h
  exact ⟨⟨.disjunct d, hd, htree⟩, fun _ => ⟨d, hd, htree⟩, fun _ h => absurd hand h⟩

theorem reads_of_negation {query : Expr} (h : Derives .negation tokens query) :
    Reads tokens query := by
  obtain ⟨d, hd, htree⟩ := h
  exact ⟨⟨.disjunct (.conjunct d), hd, htree⟩, fun _ => ⟨.conjunct d, hd, htree⟩,
    fun _ _ => ⟨d, hd, htree⟩⟩

/-- The tokens of a canonical tree are derivable as the tree. -/
theorem reads_of_prints {query : Expr} (h : query.Prints words) (canonical : query.Canonical)
    (htokens : List.Forall₂ Token.IsReadFrom tokens words) : Reads tokens query := by
  -- On the way the tree is written: the root of each part decides how tight a symbol the
  -- connective above may ask for, and canonical trees have no looser roots there.
  induction h generalizing tokens with
  | comparison field htest =>
      obtain ⟨hfield, -⟩ := canonical
      obtain ⟨name, rest, hname, hrest, rfl⟩ := List.forall₂_cons_right_iff.1 htokens
      obtain ⟨test, rfl, rfl, rfl⟩ := test_of_prints htest hrest
      obtain ⟨hwritten, hlower⟩ := hfield.written
      obtain ⟨hkind, htext⟩ := written_unique hname hwritten
      refine reads_of_negation ⟨.bare (.comparison ⟨name, hkind⟩ test), rfl, ?_⟩
      rw [Derivation.tree, Derivation.tree, String.toList_inj.1 htext, hlower]
  | or hleft hright ihl ihr =>
      obtain ⟨hcl, hcr, hor⟩ := canonical
      obtain ⟨front, back, rfl, hfront, hback⟩ := forall₂_append htokens
      obtain ⟨word, rest, hword, hrest, rfl⟩ := List.forall₂_cons_right_iff.1 hback
      obtain ⟨dl, rfl, rfl⟩ := (ihl hcl hfront).disjunction
      obtain ⟨dr, rfl, rfl⟩ := (ihr hcr hrest).conjunction hor
      have hroot : (Expr.or dl.tree dr.tree).connective? = some .or := rfl
      exact ⟨⟨.or dl ⟨word, kind_of_keyword .or hword (by decide)⟩ dr, rfl, rfl⟩,
        fun h => absurd hroot h, fun h _ => absurd hroot h⟩
  | and hleft hright ihl ihr =>
      obtain ⟨hcl, hcr, hlor, hror, hrand⟩ := canonical
      obtain ⟨front, back, rfl, hfront, hback⟩ := forall₂_append htokens
      obtain ⟨word, rest, hword, hrest, rfl⟩ := List.forall₂_cons_right_iff.1 hback
      obtain ⟨dl, rfl, rfl⟩ := (ihl hcl hfront).conjunction hlor
      obtain ⟨dr, rfl, rfl⟩ := (ihr hcr hrest).negation hror hrand
      exact reads_of_conjunction
        ⟨.and dl ⟨word, kind_of_keyword .and hword (by decide)⟩ dr, rfl, rfl⟩ rfl
  | not h ih =>
      obtain ⟨-, hc, hor, hand⟩ := canonical
      obtain ⟨word, rest, hword, hrest, rfl⟩ := List.forall₂_cons_right_iff.1 htokens
      obtain ⟨d, rfl, rfl⟩ := (ih hc hrest).negation hor hand
      exact reads_of_negation ⟨.not ⟨word, kind_of_keyword .not hword (by decide)⟩ d, rfl, rfl⟩
  | group h ih =>
      obtain ⟨front, back, rfl, hfront, hback⟩ := forall₂_append htokens
      obtain ⟨opening, inner, hopening, hinner, rfl⟩ := List.forall₂_cons_right_iff.1 hfront
      obtain ⟨closing, nothing, hclosing, hnil, rfl⟩ := List.forall₂_cons_right_iff.1 hback
      obtain rfl := List.forall₂_nil_right_iff.1 hnil
      obtain ⟨d, rfl, rfl⟩ := (ih canonical hinner).disjunction
      exact reads_of_negation ⟨.bare (.group ⟨opening, kind_of_sign hopening (by decide)⟩ d
        ⟨closing, kind_of_sign hclosing (by decide)⟩), rfl, rfl⟩

/-! ## Lexemes -/

def IsLexeme (word : List Char) : Prop :=
  ∃ kind content, Lexeme.Written kind content word

theorem isLexeme_keyword (kind : TokenKind) (h : kind ∈ TokenKind.keywords.map Prod.snd) :
    IsLexeme kind.name.toList :=
  ⟨_, _, written_keyword kind h⟩

theorem isLexeme_sign (kind : TokenKind) (h : (word, kind) ∈ Lexeme.signs) : IsLexeme word :=
  ⟨_, _, .sign h⟩

theorem isLexeme_of_prints (h : v.Prints word) : IsLexeme word := by
  cases h with
  | null => exact isLexeme_keyword .null (by decide)
  | text s hquote => exact ⟨_, _, written_string hquote s.toList⟩
  | int nonempty digits _ => exact ⟨_, _, .number (.integer nonempty digits)⟩
  | float h => exact ⟨_, _, .number h.numeral⟩

theorem PrintsItems.isLexeme {vs : List Value} (h : PrintsItems vs words) :
    ∀ word ∈ words, IsLexeme word := by
  induction h with
  | one hv => exact List.forall_mem_singleton.2 (isLexeme_of_prints hv)
  | more front hv ih =>
      simp only [List.forall_mem_append, List.forall_mem_cons]
      exact ⟨ih, isLexeme_sign .comma (by decide), isLexeme_of_prints hv, by simp⟩

theorem PrintsListing.isLexeme {vs : List Value} (h : PrintsListing vs words) :
    ∀ word ∈ words, IsLexeme word := by
  have hopening : IsLexeme ['('] := isLexeme_sign .leftParen (by decide)
  have hclosing : IsLexeme [')'] := isLexeme_sign .rightParen (by decide)
  cases h with
  | empty => simp [hopening, hclosing]
  | filled hitems =>
      simp only [List.forall_mem_append, List.forall_mem_cons]
      exact ⟨⟨hopening, hitems.isLexeme⟩, hclosing, by simp⟩

theorem PrintsTest.isLexeme {op : Operator} (h : PrintsTest op v words) :
    ∀ word ∈ words, IsLexeme word := by
  have his := isLexeme_keyword .is (by decide)
  have hnot := isLexeme_keyword .not (by decide)
  have hnull := isLexeme_keyword .null (by decide)
  have hin := isLexeme_keyword .within (by decide)
  cases h with
  | isNull => exact List.forall_mem_cons.2 ⟨his, List.forall_mem_singleton.2 hnull⟩
  | isNotNull =>
      exact List.forall_mem_cons.2 ⟨his, List.forall_mem_cons.2
        ⟨hnot, List.forall_mem_singleton.2 hnull⟩⟩
  | within hlisting => exact List.forall_mem_cons.2 ⟨hin, hlisting.isLexeme⟩
  | notWithin hlisting =>
      exact List.forall_mem_cons.2 ⟨hnot, List.forall_mem_cons.2 ⟨hin, hlisting.isLexeme⟩⟩
  | between hlow hhigh =>
      have hbetween := isLexeme_keyword .between (by decide)
      have hand := isLexeme_keyword .and (by decide)
      exact List.forall_mem_cons.2 ⟨hbetween, List.forall_mem_cons.2 ⟨isLexeme_of_prints hlow,
        List.forall_mem_cons.2 ⟨hand, List.forall_mem_singleton.2 (isLexeme_of_prints hhigh)⟩⟩⟩
  | binary hop hv =>
      obtain ⟨kind, -, hwritten⟩ := written_symbol hop
      exact List.forall_mem_cons.2
        ⟨⟨_, _, hwritten⟩, List.forall_mem_singleton.2 (isLexeme_of_prints hv)⟩

theorem Expr.Prints.isLexeme {query : Expr} (h : query.Prints words)
    (canonical : query.Canonical) : ∀ word ∈ words, IsLexeme word := by
  induction h with
  | comparison field htest =>
      exact List.forall_mem_cons.2 ⟨⟨_, _, canonical.1.written.1⟩, htest.isLexeme⟩
  | or hleft hright ihl ihr =>
      rw [List.forall_mem_append, List.forall_mem_cons]
      exact ⟨ihl canonical.1, isLexeme_keyword .or (by decide), ihr canonical.2.1⟩
  | and hleft hright ihl ihr =>
      rw [List.forall_mem_append, List.forall_mem_cons]
      exact ⟨ihl canonical.1, isLexeme_keyword .and (by decide), ihr canonical.2.1⟩
  | not h ih =>
      exact List.forall_mem_cons.2 ⟨isLexeme_keyword .not (by decide), ih canonical.2.1⟩
  | group h ih =>
      rw [List.cons_append, List.forall_mem_cons, List.forall_mem_append,
        List.forall_mem_singleton]
      exact ⟨isLexeme_sign .leftParen (by decide), ih canonical,
        isLexeme_sign .rightParen (by decide)⟩

/-! ## Texts of canonical trees -/

theorem exists_prints_value (h : v.Writable) : ∃ word, v.Prints word := by
  cases v with
  | null => exact ⟨_, .null⟩
  | text s => exact ⟨_, .text s (Or.inl rfl)⟩
  | int n =>
      obtain ⟨hpos, hdigits⟩ := h
      have hprints := Value.Prints.int (Text.digits_ne_nil n.toNat)
        (List.all_eq_true.1 (Text.all_isDigit_digits n.toNat)) hdigits
      rw [Number.ofDigits_digits, Int.toNat_of_nonneg hpos] at hprints
      exact ⟨_, hprints⟩
  | float d =>
      obtain ⟨cs, hcs⟩ := Number.exists_expansion h
      exact ⟨cs, .float hcs⟩
  | bool b => exact h.elim
  | list items => exact h.elim
  | mapping entries => exact h.elim

theorem exists_prints_items {vs : List Value} (hne : vs ≠ []) (h : ∀ v ∈ vs, v.Writable) :
    ∃ words, PrintsItems vs words := by
  induction vs using List.reverseRecOn with
  | nil => exact absurd rfl hne
  | append_singleton vs v ih =>
      obtain ⟨word, hword⟩ := exists_prints_value (h v (by simp))
      by_cases hvs : vs = []
      · subst hvs
        exact ⟨_, .one hword⟩
      · obtain ⟨words, hwords⟩ := ih hvs fun w hw => h w (List.mem_append_left _ hw)
        exact ⟨_, .more hwords hword⟩

theorem exists_prints_listing {vs : List Value} (h : ∀ v ∈ vs, v.Writable) :
    ∃ words, PrintsListing vs words := by
  by_cases hvs : vs = []
  · subst hvs
    exact ⟨_, .empty⟩
  · obtain ⟨words, hwords⟩ := exists_prints_items hvs h
    exact ⟨_, .filled hwords⟩

theorem exists_prints_test {op : Operator} (h : op.Takes v) : ∃ words, PrintsTest op v words := by
  have hbinary : op.isBinary = true → v.Writable → ∃ words, PrintsTest op v words := by
    intro hop hv
    obtain ⟨word, hword⟩ := exists_prints_value hv
    exact ⟨_, .binary hop hword⟩
  cases op with
  | isNull =>
      obtain rfl : v = .null := h
      exact ⟨_, .isNull⟩
  | isNotNull =>
      obtain rfl : v = .null := h
      exact ⟨_, .isNotNull⟩
  | within =>
      obtain ⟨items, rfl, hitems⟩ := h
      obtain ⟨words, hwords⟩ := exists_prints_listing hitems
      exact ⟨_, .within hwords⟩
  | notWithin =>
      obtain ⟨items, rfl, hitems⟩ := h
      obtain ⟨words, hwords⟩ := exists_prints_listing hitems
      exact ⟨_, .notWithin hwords⟩
  | between =>
      obtain ⟨low, high, rfl, hlow, hhigh⟩ := h
      obtain ⟨lower, hlower⟩ := exists_prints_value hlow
      obtain ⟨upper, hupper⟩ := exists_prints_value hhigh
      exact ⟨_, .between hlower hupper⟩
  | _ => exact hbinary rfl h

theorem exists_prints {query : Expr} (h : query.Canonical) :
    ∃ words, words ≠ [] ∧ query.Prints words := by
  induction query with
  | absent => exact h.elim
  | comparison field op value =>
      obtain ⟨words, hwords⟩ := exists_prints_test h.2
      exact ⟨_, List.cons_ne_nil _ _, .comparison field hwords⟩
  | logical connective left right ihl ihr =>
      cases connective with
      | and =>
          obtain ⟨front, -, hfront⟩ := ihl h.1
          obtain ⟨back, -, hback⟩ := ihr h.2.1
          exact ⟨_, by simp, .and hfront hback⟩
      | or =>
          obtain ⟨front, -, hfront⟩ := ihl h.1
          obtain ⟨back, -, hback⟩ := ihr h.2.1
          exact ⟨_, by simp, .or hfront hback⟩
      | not =>
          obtain ⟨rfl, hoperand, -⟩ := h
          obtain ⟨words, -, hwords⟩ := ihr hoperand
          exact ⟨_, List.cons_ne_nil _ _, .not hwords⟩
  | group inner ih =>
      obtain ⟨words, -, hwords⟩ := ih h
      exact ⟨_, by simp, .group hwords⟩

theorem exists_spaced (hne : words ≠ []) : ∃ cs, Spaced words cs := by
  induction words with
  | nil => exact absurd rfl hne
  | cons word rest ih =>
      by_cases hrest : rest = []
      · subst hrest
        exact ⟨_, .last word⟩
      · obtain ⟨cs, hcs⟩ := ih hrest
        have hgap : ∀ c ∈ [' '], Text.isBlank c = true := List.forall_mem_singleton.2 rfl
        exact ⟨_, .more word (by simp) hgap hcs⟩

/-- Every text of a canonical tree is read as the tree. -/
theorem parse_of_printed {query : Expr} {text : String} (canonical : query.Canonical)
    (h : query.PrintedAs text) : ∃ tokens, tokenize text = .ok tokens ∧
      (parseTokens tokens).error = none ∧ (parseTokens tokens).tree = query := by
  obtain ⟨words, hwords, hspaced⟩ := h
  obtain ⟨tokens, stop, htokenize, htokens⟩ := tokenize_spaced hspaced (hwords.isLexeme canonical)
  obtain ⟨d, rfl, rfl⟩ := (reads_of_prints hwords canonical htokens).disjunction
  refine ⟨_, htokenize, ?_⟩
  rw [parseTokens_derivation d _ rfl []]
  exact ⟨rfl, rfl⟩

/-- Printing and reading are inverse on the canonical trees. Every canonical tree has a text,
every text of it is read without an error as the tree, and what is read without an error is a
canonical tree. -/
theorem reads_printed_canonical :
    (∀ query : Expr, query.Canonical → ∃ text, query.PrintedAs text) ∧
    (∀ (query : Expr) (text : String), query.Canonical → query.PrintedAs text →
      ∃ tokens, tokenize text = .ok tokens ∧ (parseTokens tokens).error = none ∧
        (parseTokens tokens).tree = query) ∧
    ∀ (text : String) (tokens : List Token), tokenize text = .ok tokens →
      (parseTokens tokens).error = none → (parseTokens tokens).tree.Canonical := by
  refine ⟨fun query canonical => ?_, fun query text => parse_of_printed, fun text tokens h =>
    canonical_of_accepted h⟩
  obtain ⟨words, hne, hwords⟩ := exists_prints canonical
  obtain ⟨cs, hcs⟩ := exists_spaced hne
  exact ⟨String.ofList cs, words, hwords, by rwa [String.toList_ofList]⟩

end Query

end TaskQuery
