import TaskQuery.Proofs.Query.Printing
import TaskQuery.Proofs.Selector.Layout
/-!
# Queries made of queries

A query in parentheses is read as it is read by itself, whatever stands around it. So
accepted queries can be put together as texts, and mean what their parts mean together.
-/

namespace TaskQuery.Selector

open Query Grammar

variable {s : Settings} {q text : String} {rest cs word : List Char} {kind : TokenKind}

structure ReadAs (s : Settings) (text : String) (tree : Expr) (fields : List String) : Prop where
  accepted : (parse s text).errors = []
  tree : (parse s text).tree = tree
  fields : ∀ field, field ∈ (parse s text).fields ↔ field ∈ fields

/-! ## A query inside of a text -/

/-- An accepted query is read inside of another text as a query with the same tree. -/
theorem exists_passes (h : (parse s q).errors = [])
    (hrest : ∀ d ∈ rest.head?, Lexeme.Breaks d) (start : Nat) :
    ∃ d : Derivation .disjunction,
      Scan.Passes start q.toList rest d.tokens ∧ d.tree = (parse s q).tree := by
  obtain ⟨tokens, hread, haccepted, hparse⟩ := parse_eq_ofOutcome s h
  obtain ⟨inner, stop, rfl, hinner⟩ := tokenize_ends hread
  obtain ⟨others, hpass, hsame⟩ :=
    (relaid_of_tokenize hread).passes (tiles_of_tokenize hread) hrest start
  -- The tokens found inside of the text count for the same as those of the query alone.
  have halike : List.Forall₂ Token.Alike (inner ++ [Token.atEnd stop])
      (others ++ [Token.atEnd stop]) := alike_of_respelled hread hsame
  obtain ⟨htree, -, -, herror⟩ := Parse.Outcome.silent_iff.1 (parseTokens_silent halike)
  have hnone : (parseTokens (others ++ [Token.atEnd stop])).error = none := by
    rw [haccepted] at herror
    exact Option.isSome_eq_false_iff.1 herror.symm |> Option.isNone_iff_eq_none.1
  obtain ⟨d, rfl⟩ := (parseTokens_error_iff hpass.kind_ne (.atEnd stop) rfl).1 hnone
  refine ⟨d, hpass, ?_⟩
  rw [parseTokens_derivation d (.atEnd stop) rfl []] at htree
  rw [hparse]
  exact htree.symm

theorem exists_passes_word {content : List Char} (h : Lexeme.Written kind content word)
    (hends : Lexeme.EndsBefore word rest) (start : Nat) :
    ∃ t : Word kind, Scan.Passes start word rest [t.1] :=
  ⟨⟨_, rfl⟩, .lexeme h hends start⟩

theorem yields_group (h : (parse s q).errors = []) :
    Scan.Yields (['('] ++ (q.toList ++ [')'])) fun tokens =>
      ∃ d : Derivation .primary, tokens = d.tokens ∧ d.tree = .group (parse s q).tree := by
  intro start rest
  have hopens : Lexeme.Written .leftParen ['('] ['('] := .sign (by decide)
  have hcloses : Lexeme.Written .rightParen [')'] [')'] := .sign (by decide)
  have hbreaks : ∀ d ∈ (')' :: rest).head?, Lexeme.Breaks d := by
    intro d hd
    obtain rfl : ')' = d := by simpa using hd
    exact Lexeme.breaks_rightParen
  obtain ⟨opening, hopening⟩ := exists_passes_word hopens
    (Lexeme.endsBefore_paren (Or.inl rfl) (q.toList ++ [')'] ++ rest)) start
  obtain ⟨d, hinner, htree⟩ := exists_passes h hbreaks (start + 1)
  obtain ⟨closing, hclosing⟩ := exists_passes_word hcloses
    (Lexeme.endsBefore_paren (Or.inr rfl) rest) (start + 1 + q.toList.length)
  exact ⟨_, hopening.append (hinner.append hclosing), .group opening d closing, rfl,
    congrArg Expr.group htree⟩

theorem yields_keyword (h : kind ∈ TokenKind.keywords.map Prod.snd) :
    Scan.Yields (kind.name.toList ++ [' ']) fun tokens =>
      ∃ t : Word kind, tokens = [t.1] := by
  intro start rest
  have hwritten := written_keyword kind h
  have hblank : ∀ c ∈ [' '], Text.isBlank c = true := List.forall_mem_singleton.2 (by decide)
  have hnext : ∀ d ∈ ([' '] ++ rest).head?, Lexeme.Breaks d := by
    intro d hd
    obtain rfl : ' ' = d := by simpa using hd
    exact Lexeme.breaks_of_isBlank (by decide)
  obtain ⟨t, hword⟩ :=
    exists_passes_word hwritten (Lexeme.endsBefore_of_breaks hwritten hnext) start
  have hgap := Scan.Passes.gap hblank (start + kind.name.toList.length) rest
  exact ⟨_, hword.append hgap, t, rfl⟩

/-! ## Texts that are put together -/

/-- A text without blanks at its ends over which a scan passes with the tokens of a
derivation is read as its tree, if all fields in it are known. -/
theorem readAs_of_passes {first last : Char} {fields : List String}
    (d : Derivation .disjunction) (hpass : Scan.Passes 0 text.toList [] d.tokens)
    (hhead : text.toList.head? = some first) (hfirst : Text.isBlank first = false)
    (hend : text.toList.getLast? = some last) (hlast : Text.isBlank last = false)
    (hfields : ∀ field, field ∈ d.tree.fields ↔ field ∈ fields)
    (hknown : ∀ field ∈ fields, field ∈ s.validFields) : ReadAs s text d.tree fields := by
  have hstrip : (Text.strip text).toList = text.toList := by
    rw [toList_strip]
    apply Text.trimBy_eq_self_of_ends
    · intro c hc
      rw [hhead] at hc
      exact Option.some.inj hc ▸ hfirst
    · intro c hc
      rw [hend] at hc
      exact Option.some.inj hc ▸ hlast
  have hscan := hpass.read
  rw [← hstrip] at hscan
  have hread := tokenize_of_scan hscan
  have houtcome := parseTokens_derivation d
    (.atEnd (0 + (Text.strip text).toList.length)) rfl []
  have haccepted : (parse s text).errors = [] := by
    refine (parse_errors_eq_nil_iff s).2 ⟨_, hread, by rw [houtcome]; rfl, ?_⟩
    intro t ht hk
    rcases List.mem_append.1 ht with ht | ht
    · apply hknown
      rw [← hfields, ← d.fieldNames_tokens]
      exact mem_fieldNames.2 ⟨t, ht, hk, rfl⟩
    · obtain rfl := List.mem_singleton.1 ht
      cases hk
  have htree : (parse s text).tree = d.tree := by
    obtain ⟨tokens, hread', -, hparse⟩ := parse_eq_ofOutcome s haccepted
    obtain rfl := Except.ok.inj (hread.symm.trans hread')
    rw [hparse, houtcome]
    rfl
  refine ⟨haccepted, htree, fun field => ?_⟩
  rw [(parse_fields s haccepted).2.1, htree, hfields]

/-! ## The compositions -/

/-- A keyword stands for a connective: between two primaries it makes a query. -/
def Joins (kind : TokenKind) (connective : Connective) : Prop :=
  ∀ (d₁ d₂ : Derivation .primary) (t : Word kind), ∃ d : Derivation .disjunction,
    d.tokens = d₁.tokens ++ t.1 :: d₂.tokens ∧ d.tree = .logical connective d₁.tree d₂.tree

theorem joins_and : Joins .and .and :=
  fun d₁ d₂ t => ⟨.disjunct (.and (.conjunct (.bare d₁)) t (.bare d₂)), rfl, rfl⟩

theorem joins_or : Joins .or .or :=
  fun d₁ d₂ t => ⟨.or (.disjunct (.conjunct (.bare d₁))) t (.conjunct (.bare d₂)), rfl, rfl⟩

section Compositions

variable {q₁ q₂ : String} {connective : Connective}

def joined (q₁ : String) (kind : TokenKind) (q₂ : String) : List Char :=
  (['('] ++ (q₁.toList ++ [')'])) ++ ([' '] ++ ((kind.name.toList ++ [' ']) ++
    (['('] ++ (q₂.toList ++ [')']))))

theorem passes_joined (first : (parse s q₁).errors = []) (second : (parse s q₂).errors = [])
    (hword : kind ∈ TokenKind.keywords.map Prod.snd) (hjoins : Joins kind connective) :
    ∃ d : Derivation .disjunction, Scan.Passes 0 (joined q₁ kind q₂) [] d.tokens ∧
      d.tree = .logical connective (.group (parse s q₁).tree) (.group (parse s q₂).tree) := by
  have hgap : Scan.Yields [' '] fun tokens => tokens = [] :=
    .gap (List.forall_mem_singleton.2 (by decide))
  have hyields := (yields_group first).append
    (hgap.append ((yields_keyword hword).append (yields_group second)))
  obtain ⟨tokens, hpass, hform⟩ := hyields 0 []
  obtain ⟨_, _, ⟨d₁, rfl, htree₁⟩, ⟨_, _, rfl, ⟨_, _, ⟨t, rfl⟩, ⟨d₂, rfl, htree₂⟩, rfl⟩, rfl⟩,
    rfl⟩ := hform
  obtain ⟨d, htokens, htree⟩ := hjoins d₁ d₂ t
  refine ⟨d, ?_, ?_⟩
  · rw [htokens]
    exact hpass
  · rw [htree, htree₁, htree₂]

theorem readAs_joined (first : (parse s q₁).errors = []) (second : (parse s q₂).errors = [])
    (hword : kind ∈ TokenKind.keywords.map Prod.snd) (hjoins : Joins kind connective)
    (htext : text.toList = joined q₁ kind q₂) :
    ReadAs s text (.logical connective (.group (parse s q₁).tree) (.group (parse s q₂).tree))
      ((parse s q₁).fields ++ (parse s q₂).fields) := by
  obtain ⟨d, hpass, htree⟩ := passes_joined first second hword hjoins
  obtain ⟨-, hfields₁, hknown₁⟩ := parse_fields s first
  obtain ⟨-, hfields₂, hknown₂⟩ := parse_fields s second
  have hfields : ∀ field, field ∈ d.tree.fields ↔
      field ∈ (parse s q₁).fields ++ (parse s q₂).fields := by
    intro field
    rw [htree, List.mem_append, hfields₁, hfields₂]
    exact List.mem_append
  have hknown : ∀ field ∈ (parse s q₁).fields ++ (parse s q₂).fields,
      field ∈ s.validFields := by
    intro field hfield
    exact (List.mem_append.1 hfield).elim (hknown₁ field) (hknown₂ field)
  rw [← htext] at hpass
  have hhead : text.toList.head? = some '(' := by
    rw [htext]
    rfl
  have hlast : text.toList.getLast? = some ')' := by
    rw [htext]
    simp only [joined, List.getLast?_append, List.getLast?_singleton, Option.some_or]
  rw [← htree]
  exact readAs_of_passes d hpass hhead (by decide) hlast (by decide) hfields hknown

theorem readAs_and (first : (parse s q₁).errors = []) (second : (parse s q₂).errors = []) :
    ReadAs s ("(" ++ q₁ ++ ") AND (" ++ q₂ ++ ")")
      (.and (.group (parse s q₁).tree) (.group (parse s q₂).tree))
      ((parse s q₁).fields ++ (parse s q₂).fields) := by
  apply readAs_joined first second (by decide) joins_and
  simp [joined, TokenKind.name]

theorem readAs_or (first : (parse s q₁).errors = []) (second : (parse s q₂).errors = []) :
    ReadAs s ("(" ++ q₁ ++ ") OR (" ++ q₂ ++ ")")
      (.or (.group (parse s q₁).tree) (.group (parse s q₂).tree))
      ((parse s q₁).fields ++ (parse s q₂).fields) := by
  apply readAs_joined first second (by decide) joins_or
  simp [joined, TokenKind.name]

theorem passes_negated (first : (parse s q₁).errors = []) :
    ∃ d : Derivation .disjunction, Scan.Passes 0
        ((TokenKind.not.name.toList ++ [' ']) ++ (['('] ++ (q₁.toList ++ [')']))) [] d.tokens ∧
      d.tree = .not (.group (parse s q₁).tree) := by
  have hword : TokenKind.not ∈ TokenKind.keywords.map Prod.snd := by decide
  obtain ⟨tokens, hpass, hform⟩ := ((yields_keyword hword).append (yields_group first)) 0 []
  obtain ⟨_, _, ⟨t, rfl⟩, ⟨d, rfl, htree⟩, rfl⟩ := hform
  exact ⟨.disjunct (.conjunct (.not t (.bare d))), hpass, congrArg Expr.not htree⟩

theorem readAs_not (first : (parse s q₁).errors = []) :
    ReadAs s ("NOT (" ++ q₁ ++ ")") (.not (.group (parse s q₁).tree)) (parse s q₁).fields := by
  obtain ⟨d, hpass, htree⟩ := passes_negated first
  obtain ⟨-, hfields₁, hknown₁⟩ := parse_fields s first
  have hfields : ∀ field, field ∈ d.tree.fields ↔ field ∈ (parse s q₁).fields := by
    intro field
    rw [htree, hfields₁]
    rfl
  have htext : ("NOT (" ++ q₁ ++ ")").toList =
      (TokenKind.not.name.toList ++ [' ']) ++ (['('] ++ (q₁.toList ++ [')'])) := by
    simp [TokenKind.name]
  rw [← htext] at hpass
  have hhead : ("NOT (" ++ q₁ ++ ")").toList.head? = some 'N' := by
    rw [htext]
    rfl
  have hlast : ("NOT (" ++ q₁ ++ ")").toList.getLast? = some ')' := by
    rw [htext]
    simp only [List.getLast?_append, List.getLast?_singleton, Option.some_or]
  rw [← htree]
  exact readAs_of_passes d hpass hhead (by decide) hlast (by decide) hfields hknown₁

end Compositions

/-- Accepted queries compose as texts. Under all settings two accepted queries in
parentheses with `AND` or `OR` between them, and one behind `NOT`, are accepted and read as
that connective of the groups of their trees, with the fields of all parts. On every record
the new query is the conjunction, the disjunction or the negation of its parts. -/
theorem accepted_compose (s : Settings) (q₁ q₂ : String) (first : (parse s q₁).errors = [])
    (second : (parse s q₂).errors = []) :
    ReadAs s ("(" ++ q₁ ++ ") AND (" ++ q₂ ++ ")")
      (.and (.group (parse s q₁).tree) (.group (parse s q₂).tree))
      ((parse s q₁).fields ++ (parse s q₂).fields) ∧
    ReadAs s ("(" ++ q₁ ++ ") OR (" ++ q₂ ++ ")")
      (.or (.group (parse s q₁).tree) (.group (parse s q₂).tree))
      ((parse s q₁).fields ++ (parse s q₂).fields) ∧
    ReadAs s ("NOT (" ++ q₁ ++ ")") (.not (.group (parse s q₁).tree)) (parse s q₁).fields ∧
    ∀ record : Entries String Value,
      evaluate (parse s ("(" ++ q₁ ++ ") AND (" ++ q₂ ++ ")")).tree (.mapping record) =
        (evaluate (parse s q₁).tree (.mapping record) &&
          evaluate (parse s q₂).tree (.mapping record)) ∧
      evaluate (parse s ("(" ++ q₁ ++ ") OR (" ++ q₂ ++ ")")).tree (.mapping record) =
        (evaluate (parse s q₁).tree (.mapping record) ||
          evaluate (parse s q₂).tree (.mapping record)) ∧
      evaluate (parse s ("NOT (" ++ q₁ ++ ")")).tree (.mapping record) =
        !evaluate (parse s q₁).tree (.mapping record) := by
  have hand := readAs_and first second
  have hor := readAs_or first second
  have hnot := readAs_not first
  refine ⟨hand, hor, hnot, fun record => ?_⟩
  rw [hand.tree, hor.tree, hnot.tree]
  exact ⟨rfl, rfl, rfl⟩

theorem accepted_compose_urgent :
    (parse .standard " priority>=3").errors = [] ∧
    (parse .standard "title LIKE ')%' or Tags IS NULL").errors = [] ∧
    (parse .standard ("(" ++ " priority>=3" ++ ") AND (" ++
      "title LIKE ')%' or Tags IS NULL" ++ ")")).errors = [] := by
  have hparts : (parse .standard " priority>=3").errors = [] ∧
      (parse .standard "title LIKE ')%' or Tags IS NULL").errors = [] := by
    decide +kernel
  obtain ⟨hand, -⟩ := accepted_compose .standard _ _ hparts.1 hparts.2
  exact ⟨hparts.1, hparts.2, hand.accepted⟩

end TaskQuery.Selector
