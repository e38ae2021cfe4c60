import TaskQuery.Proofs.Query.Termination
import TaskQuery.Selector
/-!
# Where an error is

An error names the first token that no query has at its place. What has been taken in front
of it can always be completed: the comparison at hand needs a few words more, and every open
group a closing parenthesis. No query goes on with the token that ends the reading. Where that
token only shows that the `NOT` in front of it is out of place, the error names the `NOT`.

Tokens left over stand behind the longest query that the tokens start with.
-/

namespace TaskQuery.Query

open Grammar Parse

/-- Whether some query starts with the tokens, the end of the input behind it included. -/
def Begins (tokens : List Token) : Prop :=
  ∃ (d : Derivation .disjunction) (stop : Token),
    stop.kind = .endOfInput ∧ tokens <+: d.tokens ++ [stop]

theorem Begins.mono {tokens others : List Token} (h : Begins tokens) (hle : others <+: tokens) :
    Begins others := by
  obtain ⟨d, stop, hs, hprefix⟩ := h
  exact ⟨d, stop, hs, hle.trans hprefix⟩

namespace Parse

variable {s : State} {t : Token} {o : Outcome} {taken : List Token}

/-! ## Completing what has been taken -/

def anyWord (kind : TokenKind) : Word kind :=
  ⟨{ kind, text := kind.name, position := 0, length := 0 }, rfl⟩

def anyValue : ValueWord :=
  ⟨(anyWord .null).1, .null, rfl⟩

theorem ListHead.completes {op : Operator} {head : List Token} (h : ListHead op head)
    (f : Word .identifier) (listing : Listing) :
    ∃ d : Derivation .primary, d.tokens = f.1 :: head ++ listing.tokens := by
  obtain ⟨test, htest, -, -⟩ := h.test listing
  exact ⟨.comparison f test, by rw [Derivation.tokens, htest, List.cons_append]⟩

/-- An operand that has begun can be completed, unless it is a negation. -/
theorem pending_completes {phase : Phase} {pending : List Token} (h : Pending phase pending)
    (hne : ∀ word, phase ≠ .negation word) :
    ∃ (d : Derivation .primary) (rest : List Token), d.tokens = pending ++ rest := by
  cases h with
  | operand =>
      exact ⟨.comparison (anyWord .identifier) (.isNull (anyWord .is) (anyWord .null)), _, rfl⟩
  | negation word => exact absurd rfl (hne word.1)
  | operator f => exact ⟨.comparison f (.isNull (anyWord .is) (anyWord .null)), _, rfl⟩
  | fieldNot f word =>
      exact ⟨.comparison f (.notWithin word (anyWord .within)
        (.empty (anyWord .leftParen) (anyWord .rightParen))), _, rfl⟩
  | isTest f is => exact ⟨.comparison f (.isNull is (anyWord .null)), _, rfl⟩
  | isNotTest f is not => exact ⟨.comparison f (.isNotNull is not (anyWord .null)), _, rfl⟩
  | literal f sign => exact ⟨.comparison f (.binary sign anyValue), _, rfl⟩
  | lowBound f word =>
      exact ⟨.comparison f (.between word anyValue (anyWord .and) anyValue), _, rfl⟩
  | rangeAnd f word low =>
      exact ⟨.comparison f (.between word low (anyWord .and) anyValue), _, rfl⟩
  | highBound f word low and => exact ⟨.comparison f (.between word low and anyValue), _, rfl⟩
  | listOpening f head =>
      obtain ⟨d, hd⟩ := head.completes f (.empty (anyWord .leftParen) (anyWord .rightParen))
      exact ⟨d, _, hd⟩
  | firstItem f head opening =>
      obtain ⟨d, hd⟩ := head.completes f (.empty opening (anyWord .rightParen))
      exact ⟨d, [(anyWord .rightParen).1], by rw [hd]; simp [Listing.tokens]⟩
  | listClosing f head opening items =>
      obtain ⟨d, hd⟩ := head.completes f (.filled opening items (anyWord .rightParen))
      exact ⟨d, [(anyWord .rightParen).1], by rw [hd]; simp [Listing.tokens]⟩
  | nextItem f head opening items comma =>
      obtain ⟨d, hd⟩ := head.completes f
        (.filled opening (.more items comma anyValue) (anyWord .rightParen))
      exact ⟨d, [anyValue.token, (anyWord .rightParen).1],
        by rw [hd]; simp [Listing.tokens, Items.tokens]⟩
  | complete d => exact ⟨d, [], (List.append_nil _).symm⟩

theorem levels_complete {level : Level} {outer : List Level} {waiting : List Token}
    (h : HoldsLevels level outer waiting) (d : Derivation .primary) :
    ∃ (e : Derivation .disjunction) (rest : List Token),
      e.tokens = waiting ++ d.tokens ++ rest := by
  induction outer generalizing level waiting d with
  | nil =>
      obtain ⟨e, he, -⟩ := disjunction_of_holds h d
      exact ⟨e, [], he.trans (List.append_nil _).symm⟩
  | cons next others ih =>
      obtain ⟨before, inside, opening, hbefore, hinside, rfl⟩ := h
      obtain ⟨inner, hinner, -⟩ := disjunction_of_holds hinside d
      obtain ⟨e, rest, he⟩ := ih hbefore (.group opening inner (anyWord .rightParen))
      refine ⟨e, (anyWord .rightParen).1 :: rest, ?_⟩
      rw [he, Derivation.tokens, hinner]
      simp

/-- Whatever has been taken can be completed to a query. -/
theorem Holds.completes (h : Holds s taken) :
    ∃ (d : Derivation .disjunction) (rest : List Token), d.tokens = taken ++ rest := by
  by_cases hnegation : ∃ word, s.phase = .negation word
  · -- A negation waits in the level like those before it, and any operand goes behind it.
    obtain ⟨word, hword⟩ := hnegation
    obtain ⟨d, rest, hd⟩ := pending_completes .operand (by simp)
    obtain ⟨e, others, he⟩ := levels_complete (h.ready (Or.inr ⟨word, hword, rfl⟩)) d
    exact ⟨e, d.tokens ++ others, he.trans (List.append_assoc _ _ _)⟩
  · obtain ⟨waiting, pending, hlevels, hpending, rfl⟩ := h.parts
    obtain ⟨d, rest, hd⟩ := pending_completes hpending fun word hword => hnegation ⟨word, hword⟩
    obtain ⟨e, others, he⟩ := levels_complete hlevels d
    exact ⟨e, rest ++ others, by rw [he, hd]; simp⟩

theorem Halts.begins (h : Halts taken t o) : Begins taken := by
  obtain ⟨last, ha, -⟩ := h
  obtain ⟨d, rest, hd⟩ := (advance?_holds holds_start ha).completes
  refine ⟨d, .atEnd 0, rfl, rest ++ [.atEnd 0], ?_⟩
  rw [hd, List.nil_append, List.append_assoc]

/-! ## What ends the reading -/

/-- No query goes on with a token at which there is an error. -/
theorem Halts.not_begins (h : Halts taken t o) (herror : o.error ≠ none) :
    ¬Begins (taken ++ [t]) := by
  obtain ⟨last, ha, hstop⟩ := h
  rintro ⟨d, stop, hs, hprefix⟩
  obtain ⟨whole, operand, hd, hphase, houter, -⟩ := derivation_advances d
  rcases List.prefix_concat_iff.1 hprefix with heq | ⟨more, hmore⟩
  · -- All of the query has been taken, so its end is accepted.
    obtain ⟨htaken, ht⟩ := List.append_inj' heq rfl
    obtain rfl := List.singleton_inj.1 ht
    rw [htaken, hd] at ha
    obtain rfl := Option.some.inj ha
    rw [step_of_end hphase houter hs] at hstop
    obtain rfl := Step.stop.inj hstop
    exact herror rfl
  · rw [← hmore, List.append_assoc] at hd
    obtain ⟨middle, hmiddle, hrest⟩ := advance?_append.1 hd
    rw [ha] at hmiddle
    obtain rfl := Option.some.inj hmiddle
    obtain ⟨after, hnext, -⟩ := advance?_cons.1 hrest
    rw [step_of_moves hnext] at hstop
    cases hstop

/-! ## The token that an error names -/

end Parse

def ParseError.found? : ParseError → Option Token
  | .mismatch _ found => some found
  | .leftover found => some found
  | .emptyQuery => none
  | .endless => none

namespace Parse

/-- The index of the token that an error names. A number that cannot be read has been taken when
it is refused. -/
def Outcome.faultIndex (o : Outcome) : Nat :=
  match o.error with
  | some (.mismatch .numberLiteral _) => o.position - 1
  | _ => o.position

theorem faultIndex_of_ne {tree : Expr} {fields : List String} {wanted : Wanted} {found : Token}
    {position : Nat} (h : wanted ≠ .numberLiteral) :
    Outcome.faultIndex
      { tree, fields, error := some (.mismatch wanted found), position } = position := by
  cases wanted <;> first | rfl | exact absurd rfl h

theorem Holds.last_word {word : Token} (h : Holds s taken) (hword : s.phase.word? = some word) :
    word.kind = .not ∧ ∃ before, taken = before ++ [word] := by
  obtain ⟨waiting, pending, -, hpending, rfl⟩ := h.parts
  generalize s.phase = phase at hpending hword
  cases hpending <;> cases hword
  case negation word' => exact ⟨word'.2, waiting, rfl⟩
  case fieldNot f word' => exact ⟨word'.2, waiting ++ [f.1], by simp⟩

theorem Halts.names (h : Halts taken t o) {e : ParseError} (herror : o.error = some e) :
    ∃ found, e.found? = some found ∧
      ((found = t ∧ o.faultIndex = taken.length) ∨
        (found.kind = .not ∧ ∃ before, taken = before ++ [found] ∧
          o.faultIndex = before.length)) := by
  obtain ⟨last, ha, hposition, hending⟩ := h.ending
  cases hending with
  | refused wanted number =>
      obtain rfl := Option.some.inj herror
      exact ⟨t, rfl, Or.inl ⟨rfl, (faultIndex_of_ne number).trans hposition⟩⟩
  | unreadable bad =>
      obtain rfl := Option.some.inj herror
      exact ⟨t, rfl, Or.inl ⟨rfl, by rw [hposition]; rfl⟩⟩
  | givenBack wanted number word behind =>
      obtain rfl := Option.some.inj herror
      obtain ⟨hnot, before, rfl⟩ := (advance?_holds holds_start ha).last_word behind
      refine ⟨word, rfl, Or.inr ⟨hnot, before, rfl, ?_⟩⟩
      rw [faultIndex_of_ne number, hposition]
      simp
  | complete operand whole outer =>
      by_cases hk : t.kind = .endOfInput
      · simp [hk] at herror
      · simp only [hk, if_false, Option.some.injEq] at herror
        subst herror
        exact ⟨t, rfl, Or.inl ⟨rfl, by simp [Outcome.faultIndex, hk, hposition]⟩⟩

end Parse

variable {tokens : List Token} {stop : Token}

/-- An error names the first token that no query has at its place. The tokens in front of it
start some query, and with it they start none, the end of the input included; only if it is
`NOT`, one more token may be needed until no query starts so. -/
theorem error_at_first_fault (tokens : List Token) (stop : Token)
    (plain : ∀ t ∈ tokens, t.kind ≠ .endOfInput) (ends : stop.kind = .endOfInput)
    (e : ParseError) (failed : (parseTokens (tokens ++ [stop])).error = some e)
    (nonempty : e ≠ .emptyQuery) :
    ∃ found i, e.found? = some found ∧ i = (parseTokens (tokens ++ [stop])).faultIndex ∧
      (tokens ++ [stop])[i]? = some found ∧ Begins ((tokens ++ [stop]).take i) ∧
      (found.kind ≠ .not → ¬Begins ((tokens ++ [stop]).take (i + 1))) ∧
      (found.kind = .not → ¬Begins ((tokens ++ [stop]).take (i + 2))) := by
  have hne : tokens ≠ [] := by
    rintro rfl
    rw [List.nil_append, parseTokens_end ends] at failed
    exact nonempty (Option.some.inj failed).symm
  obtain ⟨taken, t, rest, hsplit, hhalts⟩ := parseTokens_halts plain ends hne []
  obtain ⟨found, hfound, hplace⟩ := hhalts.names failed
  have hstops : ¬Begins (taken ++ [t]) := hhalts.not_begins (by simp [failed])
  rcases hplace with ⟨rfl, hi⟩ | ⟨hnot, before, rfl, hi⟩
  · have hnext : ¬Begins ((taken ++ found :: rest).take (taken.length + 1)) := by
      rw [List.append_cons, List.take_left' (by simp)]
      exact hstops
    refine ⟨found, taken.length, hfound, hi.symm, ?_⟩
    rw [hsplit]
    refine ⟨by simp, ?_, fun _ => hnext, fun _ hbegins => hnext (hbegins.mono ?_)⟩
    · rw [List.take_left]
      exact hhalts.begins
    · exact List.take_prefix_take_left (by omega)
  · refine ⟨found, before.length, hfound, hi.symm, ?_⟩
    rw [hsplit]
    refine ⟨by simp, ?_, fun hother => absurd hnot hother, fun _ => ?_⟩
    · rw [List.append_assoc, List.take_left]
      exact hhalts.begins.mono (List.prefix_append before [found])
    · rw [List.append_cons, List.take_left' (by simp)]
      exact hstops

/-- The tokens of `tags NOT LIKE 'bug'`. -/
def unlikeTokens : List Token :=
  [⟨.identifier, "tags", 0, 4⟩, ⟨.not, "NOT", 5, 3⟩, ⟨.like, "LIKE", 9, 4⟩,
    ⟨.string, "bug", 14, 5⟩]

/-- The error names `NOT`, behind which only `IN` could stand. -/
theorem error_at_first_fault_unlike :
    ((∀ t ∈ unlikeTokens, t.kind ≠ .endOfInput) ∧
      (parseTokens (unlikeTokens ++ [.atEnd 19])).error =
        some (.mismatch .operator ⟨.not, "NOT", 5, 3⟩)) ∧
    Begins (unlikeTokens.take 1) ∧ ¬Begins (unlikeTokens.take 3) := by
  have hplain : ∀ t ∈ unlikeTokens, t.kind ≠ .endOfInput := by
    decide
  have hfailed : (parseTokens (unlikeTokens ++ [.atEnd 19])).error =
      some (.mismatch .operator ⟨.not, "NOT", 5, 3⟩) := rfl
  obtain ⟨found, i, hfound, hi, -, hbegins, -, hfault⟩ :=
    error_at_first_fault unlikeTokens (.atEnd 19) hplain rfl _ hfailed (by simp)
  obtain rfl := Option.some.inj hfound
  obtain rfl : i = 1 := hi
  exact ⟨⟨hplain, hfailed⟩, hbegins, hfault rfl⟩

/-! ## Tokens left over -/

namespace Parse

variable {t : Token} {o : Outcome} {taken : List Token}

theorem Halts.tree_empty (h : Halts taken t o) {e : ParseError} (herror : o.error = some e)
    (hinside : ∀ found, e ≠ .leftover found) : o.tree = .empty := by
  obtain ⟨last, -, -, hending⟩ := h.ending
  cases hending with
  | complete operand whole outer =>
      by_cases hk : t.kind = .endOfInput
      · simp [hk] at herror
      · simp only [hk, if_false, Option.some.injEq] at herror
        exact absurd herror.symm (hinside t)
  | _ => rfl

theorem Halts.leftover (h : Halts taken t o) {found : Token}
    (herror : o.error = some (.leftover found)) :
    found = t ∧ t.kind ≠ .endOfInput ∧ o.position = taken.length ∧
      ∃ d : Derivation .disjunction,
        d.tokens = taken ∧ o.tree = d.tree ∧ o.fields = namedFields d.tokens := by
  obtain ⟨last, ha, hposition, hending⟩ := h.ending
  cases hending with
  | complete operand whole outer =>
      by_cases hk : t.kind = .endOfInput
      · simp [hk] at herror
      · simp only [hk, if_false, Option.some.injEq, ParseError.leftover.injEq] at herror
        obtain ⟨d, rfl, htree⟩ := derivation_of_whole (advance?_holds holds_start ha) outer whole
        exact ⟨herror.symm, hk, hposition, d, rfl, htree, advance?_fields ha⟩
  | _ => cases herror

end Parse

/-- There is at most one error. The tree is empty after every error but that for tokens left
over; then it is the tree of the tokens in front of them, with their fields, and these are the
longest query that the tokens start with. -/
theorem leftover_behind_longest_query (tokens : List Token) (stop : Token)
    (plain : ∀ t ∈ tokens, t.kind ≠ .endOfInput) (ends : stop.kind = .endOfInput) :
    (Selector.ofOutcome (parseTokens (tokens ++ [stop]))).errors.length ≤ 1 ∧
    ∀ e, (parseTokens (tokens ++ [stop])).error = some e →
      ((∀ found, e ≠ .leftover found) → (parseTokens (tokens ++ [stop])).tree = .empty) ∧
      ∀ found, e = .leftover found → ∃ k, k = (parseTokens (tokens ++ [stop])).position ∧
        tokens[k]? = some found ∧ ∀ close : Token, close.kind = .endOfInput →
          (parseTokens (tokens.take k ++ [close])).error = none ∧
          (parseTokens (tokens.take k ++ [close])).tree =
            (parseTokens (tokens ++ [stop])).tree ∧
          (parseTokens (tokens.take k ++ [close])).fields =
            (parseTokens (tokens ++ [stop])).fields ∧
          ∀ n, k < n → n ≤ tokens.length →
            (parseTokens (tokens.take n ++ [close])).error ≠ none := by
  have hcount : (Selector.ofOutcome (parseTokens (tokens ++ [stop]))).errors.length ≤ 1 := by
    rw [Selector.ofOutcome]
    cases (parseTokens (tokens ++ [stop])).error <;> simp
  refine ⟨hcount, fun e herror => ?_⟩
  by_cases hne : tokens = []
  · subst hne
    rw [List.nil_append, parseTokens_end ends] at herror ⊢
    obtain rfl := Option.some.inj herror
    exact ⟨fun _ => rfl, by simp⟩
  obtain ⟨taken, t, rest, hsplit, hhalts⟩ := parseTokens_halts plain ends hne []
  refine ⟨hhalts.tree_empty herror, ?_⟩
  rintro found rfl
  have hstops : ¬Begins (taken ++ [t]) := hhalts.not_begins (by simp [herror])
  obtain ⟨rfl, hinner, hposition, d, rfl, htree, hfields⟩ := hhalts.leftover herror
  obtain ⟨others, rfl⟩ := split_inside hsplit fun heq => hinner (heq ▸ ends)
  refine ⟨d.tokens.length, hposition.symm, by simp, fun close hclose => ?_⟩
  have hquery := parseTokens_derivation d close hclose []
  rw [List.take_left, hquery]
  refine ⟨rfl, htree.symm, hfields.symm, fun n hn hle haccepted => ?_⟩
  have hplain : ∀ u ∈ (d.tokens ++ found :: others).take n, u.kind ≠ .endOfInput :=
    fun u hu => plain u (List.mem_of_mem_take hu)
  obtain ⟨longer, hlonger⟩ := (parseTokens_error_iff hplain close hclose).1 haccepted
  have hbegins : Begins longer.tokens := ⟨longer, close, hclose, List.prefix_append _ _⟩
  have hnext : (d.tokens ++ found :: others).take (d.tokens.length + 1) = d.tokens ++ [found] := by
    rw [List.append_cons, List.take_left' (by simp)]
  rw [hlonger] at hbegins
  exact hstops (hbegins.mono (hnext ▸ List.take_prefix_take_left (by omega)))

/-- The tokens of `tags IS NULL size IS NULL OR`. -/
def unjoinedTokens : List Token :=
  [⟨.identifier, "tags", 0, 4⟩, ⟨.is, "IS", 5, 2⟩, ⟨.null, "NULL", 8, 4⟩,
    ⟨.identifier, "size", 13, 4⟩, ⟨.is, "IS", 18, 2⟩, ⟨.null, "NULL", 21, 4⟩, ⟨.or, "OR", 26, 2⟩]

/-- The second comparison is left over, and no query reaches into it. -/
theorem leftover_behind_longest_query_unjoined :
    (∀ t ∈ unjoinedTokens, t.kind ≠ .endOfInput) ∧
    (parseTokens (unjoinedTokens ++ [.atEnd 28])).error =
      some (.leftover ⟨.identifier, "size", 13, 4⟩) ∧
    (parseTokens (unjoinedTokens.take 3 ++ [.atEnd 12])).error = none ∧
    ∀ n, 3 < n → n ≤ unjoinedTokens.length →
      (parseTokens (unjoinedTokens.take n ++ [.atEnd 12])).error ≠ none := by
  have hplain : ∀ t ∈ unjoinedTokens, t.kind ≠ .endOfInput := by
    decide
  have herror : (parseTokens (unjoinedTokens ++ [.atEnd 28])).error =
      some (.leftover ⟨.identifier, "size", 13, 4⟩) := rfl
  obtain ⟨k, hk, -, hquery⟩ := ((leftover_behind_longest_query unjoinedTokens (.atEnd 28) hplain
    rfl).2 _ herror).2 _ rfl
  obtain rfl : k = 3 := hk
  obtain ⟨haccepted, -, -, hlongest⟩ := hquery (.atEnd 12) rfl
  exact ⟨hplain, herror, haccepted, hlongest⟩

end TaskQuery.Query
