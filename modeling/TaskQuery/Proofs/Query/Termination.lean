import TaskQuery.Proofs.Query.Recognition
/-!
# Where reading ends

A reading stops no later than at the first end of the input, so it looks at nothing behind
it. Without one the last token is found again and again. A closing parenthesis closes one
group each time, and any other token can be taken once at most, unless it is `NOT` or an
opening parenthesis, which can open operands without end.
-/

namespace TaskQuery.Query.Parse

open Grammar (valueOf? kind_of_valueOf?)

variable {s after : State} {t : Token} {o : Outcome} {field : String}

/-- All of `taken` is taken, and the token behind it ends the reading. -/
def Halts (taken : List Token) (t : Token) (o : Outcome) : Prop :=
  ∃ last, advance? .start taken = some last ∧ step last t = .stop o

theorem Halts.ending {taken : List Token} (h : Halts taken t o) :
    ∃ last, advance? .start taken = some last ∧ last.position = taken.length ∧
      Ending last t o := by
  obtain ⟨last, ha, hs⟩ := h
  have hposition := advance?_position ha
  exact ⟨last, ha, hposition.trans (Nat.zero_add taken.length), step_ending hs⟩

theorem Halts.ne_endless {taken : List Token} (h : Halts taken t o) :
    o.error ≠ some .endless := by
  obtain ⟨last, -, -, hending⟩ := h.ending
  cases hending with
  | complete operand whole outer => by_cases hk : t.kind = .endOfInput <;> simp [hk]
  | _ => simp

/-! ## A token that is found again -/

def Phase.takes (phase : Phase) (kind : TokenKind) : Bool :=
  match phase with
  | .operand | .negation _ => (kind matches .identifier | .not | .leftParen)
  | .operator _ =>
      (kind matches .is | .not | .within | .between) || (Operator.ofToken? kind).isSome
  | .fieldNot _ _ => (kind matches .within)
  | .isTest _ => (kind matches .null | .not)
  | .isNotTest _ => (kind matches .null)
  | .literal _ _ | .lowBound _ | .highBound _ _ | .nextItem _ _ _ =>
      (kind matches .string | .number | .null)
  | .rangeAnd _ _ => (kind matches .and)
  | .listOpening _ _ => (kind matches .leftParen)
  | .firstItem _ _ => (kind matches .rightParen | .string | .number | .null)
  | .listClosing _ _ _ => (kind matches .comma | .rightParen)
  | .complete _ => (kind matches .and | .or | .rightParen)

theorem Phase.Continues.takes {phase next : Phase} (h : phase.Continues t next) :
    phase.takes t.kind = true := by
  cases h with
  | sign sign => simp [Phase.takes, sign]
  | literal value | lowBound value | highBound value | firstItem value | nextItem value =>
      rcases kind_of_valueOf? value with hk | hk | hk <;> rw [hk] <;> rfl
  | _ kind => rw [kind]; rfl

theorem Ready.takes {level : Level} {kind : TokenKind} (h : Ready s level) :
    s.phase.takes kind = Phase.operand.takes kind := by
  rcases h with ⟨hp, -⟩ | ⟨word, hp, -⟩
  · rw [hp]
  · rw [hp]
    rfl

theorem Moves.takes (m : Moves s t after) : s.phase.takes t.kind = true := by
  cases m with
  | continues h => exact h.takes
  | negation ready kind | opening ready kind | field ready kind =>
      rw [ready.takes, kind]
      rfl
  | and whole kind | or whole kind | closing whole kind =>
      rw [whole, kind]
      rfl

/-- A phase inside of a comparison goes over to one that does not take the same kind, a
parenthesis and `NOT` apart. -/
theorem Phase.Continues.not_takes {phase next : Phase} (h : phase.Continues t next)
    (hnot : t.kind ≠ .not) (hopening : t.kind ≠ .leftParen) (hclosing : t.kind ≠ .rightParen) :
    next.takes t.kind = false := by
  cases h with
  | sign sign => cases hk : t.kind <;> rw [hk] at sign <;> first | rfl | cases sign
  | literal value | lowBound value | highBound value | firstItem value | nextItem value =>
      rcases kind_of_valueOf? value with hk | hk | hk <;> rw [hk] <;> rfl
  | fieldNot kind | isNot kind => exact absurd kind hnot
  | opening kind => exact absurd kind hopening
  | noItem kind | closing kind => exact absurd kind hclosing
  | _ kind => rw [kind]; rfl

/-- No token but `NOT` and a parenthesis can be taken twice in a row. -/
theorem Moves.stops_again (m : Moves s t after) (hnot : t.kind ≠ .not)
    (hopening : t.kind ≠ .leftParen) (hclosing : t.kind ≠ .rightParen) {last : State} :
    ¬Moves after t last := by
  intro again
  have htakes := again.takes
  cases m with
  | continues h =>
      rw [phase_moved, h.not_takes hnot hopening hclosing] at htakes
      cases htakes
  | field ready kind | and whole kind | or whole kind =>
      rw [kind] at htakes
      cases htakes
  | negation ready kind => exact hnot kind
  | opening ready kind => exact hopening kind
  | closing whole kind => exact hclosing kind

/-! ## A closing parenthesis that is found again -/

theorem Phase.Continues.of_closing {phase next : Phase} (h : phase.Continues t next)
    (hk : t.kind = .rightParen) : ∃ operand, next = .complete operand := by
  cases h with
  | noItem | closing => exact ⟨_, rfl⟩
  | sign sign =>
      rw [hk] at sign
      cases sign
  | literal value | lowBound value | highBound value | firstItem value | nextItem value =>
      simp [valueOf?, hk] at value
  | _ kind =>
      rw [hk] at kind
      cases kind

theorem Phase.not_continues_complete {operand : Expr} {next : Phase} :
    ¬(Phase.complete operand).Continues t next :=
  nofun

/-- A closing parenthesis leaves a whole operand behind and opens nothing; behind a whole
operand it closes a group. -/
theorem Moves.of_closing (m : Moves s t after) (hk : t.kind = .rightParen) :
    (∃ operand, after.phase = .complete operand) ∧ after.outer.length ≤ s.outer.length ∧
      ∀ operand, s.phase = .complete operand → after.outer.length < s.outer.length := by
  cases m with
  | continues h =>
      refine ⟨h.of_closing hk, Nat.le_refl _, fun operand hp => ?_⟩
      rw [hp] at h
      exact absurd h Phase.not_continues_complete
  | closing whole kind inside =>
      rw [inside]
      exact ⟨⟨_, rfl⟩, Nat.le_succ _, fun _ _ => Nat.lt_succ_self _⟩
  | _ _ kind =>
      rw [hk] at kind
      cases kind

/-- Behind a whole operand each closing parenthesis closes a group, until none is open. -/
theorem closings_stop (hk : t.kind = .rightParen) {operand : Expr} (n : Nat)
    (hp : s.phase = .complete operand) (hn : s.outer.length < n) :
    advance? s (List.replicate n t) = none := by
  rw [Option.eq_none_iff_forall_ne_some]
  intro last ha
  induction n generalizing s operand with
  | zero => exact absurd hn (Nat.not_lt_zero _)
  | succ n ih =>
      obtain ⟨after, hm, hr⟩ := advance?_cons.1 ha
      obtain ⟨⟨inner, hinner⟩, -, hless⟩ := hm.of_closing hk
      exact ih hinner (Nat.lt_of_lt_of_le (hless operand hp) (Nat.le_of_lt_succ hn)) hr

theorem repetition_stops (hnot : t.kind ≠ .not) (hopening : t.kind ≠ .leftParen) {n : Nat}
    (hn : s.outer.length + 2 ≤ n) : advance? s (List.replicate n t) = none := by
  obtain ⟨n, rfl⟩ : ∃ k, n = k + 2 := ⟨n - 2, by omega⟩
  rw [Option.eq_none_iff_forall_ne_some]
  intro last ha
  obtain ⟨after, hm, hr⟩ := advance?_cons.1 ha
  by_cases hk : t.kind = .rightParen
  · obtain ⟨⟨operand, hp⟩, hle, -⟩ := hm.of_closing hk
    have hstops := closings_stop hk (n + 1) hp (by omega)
    exact absurd (hstops.symm.trans hr) nofun
  · obtain ⟨next, hagain, -⟩ := advance?_cons.1 hr
    exact hm.stops_again hnot hopening hk hagain

theorem outer_length_le {level : Level} {outer : List Level} {tokens : List Token}
    (h : HoldsLevels level outer tokens) : outer.length ≤ tokens.length := by
  induction outer generalizing level tokens with
  | nil => exact Nat.zero_le _
  | cons next others ih =>
      obtain ⟨a, b, opening, ha, -, rfl⟩ := h
      have hle := ih ha
      simp only [List.length_cons, List.length_append]
      omega

theorem advance?_repetition (tokens : List Token) (hnot : t.kind ≠ .not)
    (hopening : t.kind ≠ .leftParen) {n : Nat} (hn : tokens.length + 2 ≤ n) :
    advance? .start (tokens ++ List.replicate n t) = none := by
  rw [Option.eq_none_iff_forall_ne_some]
  intro last h
  obtain ⟨middle, ha, hr⟩ := advance?_append.1 h
  obtain ⟨a, b, hlevels, -, htokens⟩ := (advance?_holds holds_start ha).parts
  have hlength := congrArg List.length htokens
  have houter := outer_length_le hlevels
  rw [List.nil_append, List.length_append] at hlength
  rw [repetition_stops hnot hopening (by omega)] at hr
  cases hr

/-! ## The first end of the input -/

variable {front taken : List Token} {stop : Token}

theorem advance?_end (s : State) (front : List Token) (ends : stop.kind = .endOfInput) :
    advance? s (front ++ [stop]) = none := by
  rw [Option.eq_none_iff_forall_ne_some]
  intro last h
  exact advance?_inner h stop (List.mem_append_right front (List.mem_singleton.2 rfl)) ends

theorem parseTokens_end (ends : stop.kind = .endOfInput) (more : List Token) :
    parseTokens (stop :: more) =
      { tree := .empty, fields := [], error := some .emptyQuery, position := 0 } := by
  rw [parseTokens]
  exact if_pos ends

theorem split_inside {rest : List Token} (h : front ++ [stop] = taken ++ t :: rest)
    (hne : t ≠ stop) : ∃ others, front = taken ++ t :: others := by
  rcases List.eq_nil_or_concat rest with rfl | ⟨others, last, rfl⟩
  · obtain ⟨-, ht⟩ := List.append_inj' h rfl
    exact absurd (List.singleton_inj.1 ht).symm hne
  · rw [List.concat_eq_append, ← List.cons_append, ← List.append_assoc] at h
    exact ⟨others, (List.append_inj' h rfl).1⟩

section

variable (plain : ∀ t ∈ front, t.kind ≠ .endOfInput) (ends : stop.kind = .endOfInput)

include plain ends

/-- Nothing behind the first end of the input is read. -/
theorem parseTokens_front (hne : front ≠ []) (more : List Token) :
    parseTokens (front ++ stop :: more) = run .start (front ++ [stop]) := by
  obtain ⟨first, others, rfl⟩ := List.exists_cons_of_ne_nil hne
  have hk : first.kind ≠ .endOfInput := plain first (by simp)
  rw [List.cons_append, parseTokens_eq_run hk, ← List.cons_append]
  have hsplit : ∀ padding : List Token, (first :: others) ++ stop :: more ++ padding =
      (first :: others) ++ [stop] ++ (more ++ padding) := by
    intro padding
    simp
  rw [hsplit, run_append_of_stops (advance?_end .start (first :: others) ends)]

theorem parseTokens_halts (hne : front ≠ []) (more : List Token) : ∃ taken t rest,
    front ++ [stop] = taken ++ t :: rest ∧
      Halts taken t (parseTokens (front ++ stop :: more)) := by
  obtain ⟨taken, t, rest, last, hsplit, ha, hstop⟩ :=
    run_stops (advance?_end .start front ends)
  rw [parseTokens_front plain ends hne more]
  exact ⟨taken, t, rest, hsplit, last, ha, hstop⟩

theorem parseTokens_behind (more others : List Token) :
    parseTokens (front ++ stop :: more) = parseTokens (front ++ stop :: others) := by
  by_cases hne : front = []
  · subst hne
    exact (parseTokens_end ends more).trans (parseTokens_end ends others).symm
  · rw [parseTokens_front plain ends hne, parseTokens_front plain ends hne]

/-- The place where a reading ends is not behind the first end of the input, and it is there
if there is no error. -/
theorem Halts.position_le {rest : List Token} (h : Halts taken t o)
    (hsplit : front ++ [stop] = taken ++ t :: rest) :
    taken.length ≤ front.length ∧ o.position ≤ front.length ∧
      (o.error = none → o.position = front.length) := by
  obtain ⟨last, ha, hposition, hending⟩ := h.ending
  have hlength := congrArg List.length hsplit
  simp only [List.length_append, List.length_cons, List.length_nil] at hlength
  refine ⟨by omega, ?_⟩
  cases hending with
  | refused wanted number => exact ⟨by dsimp only; omega, by simp⟩
  | givenBack wanted number word behind => exact ⟨by dsimp only; omega, by simp⟩
  | unreadable bad =>
      have hne : t ≠ stop := by
        rintro rfl
        simp [Literal.ofToken, ends] at bad
      obtain ⟨others, rfl⟩ := split_inside hsplit hne
      simp only [hposition, List.length_append, List.length_cons]
      exact ⟨by omega, by simp⟩
  | complete operand whole outer =>
      refine ⟨by dsimp only; omega, fun hnone => ?_⟩
      have hk : t.kind = .endOfInput := by
        by_contra hk
        simp [hk] at hnone
      have htaken : front = taken := cut_unique plain ends (advance?_inner ha) hk hsplit
      rw [hposition, htaken]

end

/-! ## Places -/

/-- The token at a place. Behind the last token the last one stands again. -/
def tokenAt (tokens : List Token) (place : Nat) : Token :=
  tokens.getD place (tokens.getLastD (.atEnd 0))

def tokensBefore (tokens : List Token) (place : Nat) : List Token :=
  (List.range place).map (tokenAt tokens)

/-- Reading looks at no token behind a place: those before it are all taken, and the one there
ends the reading. -/
def EndsAt (tokens : List Token) (place : Nat) (o : Outcome) : Prop :=
  Halts (tokensBefore tokens place) (tokenAt tokens place) o

theorem repeated_eq (tokens : List Token) (n : Nat) :
    tokens ++ List.replicate n (tokens.getLastD (.atEnd 0)) =
      tokensBefore tokens (tokens.length + n) := by
  apply List.ext_getElem
  · simp [tokensBefore]
  · intro i hi hi'
    simp only [tokensBefore, List.getElem_map, List.getElem_range, tokenAt]
    by_cases h : i < tokens.length
    · simp [h]
    · simp [h, Nat.le_of_not_lt h]

theorem tokensBefore_split {tokens rest : List Token} {place : Nat}
    (h : tokensBefore tokens place = taken ++ t :: rest) :
    taken = tokensBefore tokens taken.length ∧ t = tokenAt tokens taken.length := by
  have hlength := congrArg List.length h
  simp only [tokensBefore, List.length_map, List.length_range, List.length_append,
    List.length_cons] at hlength
  constructor
  · have htake := congrArg (List.take taken.length) h
    rw [List.take_left, tokensBefore, ← List.map_take, List.take_range,
      Nat.min_eq_left (by omega)] at htake
    exact htake.symm
  · have hplace : (tokensBefore tokens place)[taken.length]? = some t := by
      rw [h, List.getElem?_append_right (Nat.le_refl _), Nat.sub_self]
      rfl
    rw [tokensBefore, List.getElem?_map, List.getElem?_range (by omega)] at hplace
    exact (Option.some.inj hplace).symm

theorem endsAt_of_halts {tokens rest : List Token} (h : Halts taken t o) (n : Nat)
    (hsplit : tokens ++ List.replicate n (tokens.getLastD (.atEnd 0)) = taken ++ t :: rest) :
    EndsAt tokens taken.length o := by
  rw [repeated_eq] at hsplit
  obtain ⟨htaken, ht⟩ := tokensBefore_split hsplit
  rw [EndsAt, ← htaken, ← ht]
  exact h

theorem position_le_of_advance {place : Nat} {more : List Token}
    (ends : stop.kind = .endOfInput)
    (h : advance? .start (tokensBefore (front ++ stop :: more) place) = some s) :
    s.position ≤ front.length := by
  have hposition : s.position = place := by
    rw [advance?_position h, tokensBefore, List.length_map, List.length_range]
    exact Nat.zero_add place
  rw [hposition]
  by_contra hplace
  have hstop : tokenAt (front ++ stop :: more) front.length = stop := by simp [tokenAt]
  have hmem : stop ∈ tokensBefore (front ++ stop :: more) place :=
    List.mem_map.2 ⟨front.length, List.mem_range.2 (Nat.lt_of_not_le hplace), hstop⟩
  exact advance?_inner h stop hmem ends

end TaskQuery.Query.Parse

namespace TaskQuery.Query

open Parse

theorem parseTokens_halts_repeated {front : List Token} {last : Token}
    (inner : ∀ t ∈ front ++ [last], t.kind ≠ .endOfInput) (hnot : last.kind ≠ .not)
    (hopening : last.kind ≠ .leftParen) :
    ∃ taken t rest n,
      (front ++ [last]) ++ List.replicate n ((front ++ [last]).getLastD (.atEnd 0)) =
        taken ++ t :: rest ∧ Halts taken t (parseTokens (front ++ [last])) := by
  obtain ⟨first, others, hcons⟩ := List.exists_cons_of_ne_nil (l := front ++ [last]) (by simp)
  have hrun : parseTokens (front ++ [last]) = run .start (front ++ [last] ++
      List.replicate ((front ++ [last]).length + 2) ((front ++ [last]).getLastD (.atEnd 0))) := by
    rw [hcons] at inner ⊢
    rw [List.getLastD_cons]
    exact parseTokens_eq_run (inner first (by simp)) others
  have hlast : (front ++ [last]).getLastD (.atEnd 0) = last := by simp
  obtain ⟨taken, t, rest, middle, hsplit, ha, hstop⟩ :=
    run_stops (advance?_repetition (front ++ [last]) hnot hopening (Nat.le_refl _))
  rw [hlast] at hrun ⊢
  exact ⟨taken, t, rest, _, hsplit, middle, ha, hrun ▸ hstop⟩

/-- Reading ends. With an end of the input among the tokens, nothing behind the first one is
looked at or has any effect; no place on the way is behind it, and an accepted list of tokens
is read up to there. Without one the last token is found again and again; unless it is one that
opens operands without end, reading still ends, and with an error. -/
theorem reading_ends (tokens : List Token) :
    (∀ front stop more, tokens = front ++ stop :: more →
      (∀ t ∈ front, t.kind ≠ .endOfInput) → stop.kind = .endOfInput →
        ((front = [] ∧ (parseTokens tokens).error = some .emptyQuery) ∨
          ∃ place ≤ front.length, EndsAt tokens place (parseTokens tokens)) ∧
        (∀ place s, advance? .start (tokensBefore tokens place) = some s →
          s.position ≤ front.length) ∧
        (parseTokens tokens).position ≤ front.length ∧
        ((parseTokens tokens).error = none → (parseTokens tokens).position = front.length) ∧
        ∀ others, parseTokens (front ++ stop :: others) = parseTokens tokens) ∧
    (∀ front last, tokens = front ++ [last] → (∀ t ∈ tokens, t.kind ≠ .endOfInput) →
      last.kind ≠ .not → last.kind ≠ .leftParen →
        (∃ place, EndsAt tokens place (parseTokens tokens)) ∧
        (parseTokens tokens).error ≠ none ∧ (parseTokens tokens).error ≠ some .endless) := by
  constructor
  · rintro front stop more rfl plain ends
    have hbehind := fun others => parseTokens_behind plain ends others more
    by_cases hne : front = []
    · subst hne
      have hrefused := parseTokens_end ends more
      refine ⟨Or.inl ⟨rfl, congrArg Outcome.error hrefused⟩,
        fun place s => position_le_of_advance ends, ?_, ?_, hbehind⟩
      · exact Nat.le_of_eq (congrArg Outcome.position hrefused)
      · exact fun _ => congrArg Outcome.position hrefused
    · obtain ⟨taken, t, rest, hsplit, hhalts⟩ := parseTokens_halts plain ends hne more
      obtain ⟨hplace, hposition, haccepted⟩ := hhalts.position_le plain ends hsplit
      have hall : (front ++ stop :: more) ++ List.replicate 0
          ((front ++ stop :: more).getLastD (.atEnd 0)) = taken ++ t :: (rest ++ more) := by
        rw [List.replicate_zero, List.append_nil, List.append_cons, hsplit, List.append_assoc,
          List.cons_append]
      exact ⟨Or.inr ⟨taken.length, hplace, endsAt_of_halts hhalts 0 hall⟩,
        fun place s => position_le_of_advance ends, hposition, haccepted, hbehind⟩
  · rintro front last rfl inner hnot hopening
    obtain ⟨taken, t, rest, n, hsplit, hhalts⟩ := parseTokens_halts_repeated inner hnot hopening
    refine ⟨⟨taken.length, endsAt_of_halts hhalts n hsplit⟩, fun haccepted => ?_,
      hhalts.ne_endless⟩
    obtain ⟨d, stop, others, hstop, htokens⟩ := derivation_of_accepted haccepted
    exact inner stop (by rw [htokens]; simp) hstop

/-- The tokens of `((tags IS NULL`. -/
def openedTokens : List Token :=
  [⟨.leftParen, "(", 0, 1⟩, ⟨.leftParen, "(", 1, 1⟩, ⟨.identifier, "tags", 2, 4⟩,
    ⟨.is, "IS", 7, 2⟩, ⟨.null, "NULL", 10, 4⟩]

def closingToken : Token :=
  ⟨.rightParen, ")", 14, 1⟩

/-- One closing parenthesis at the end closes both groups, and is left over then. Behind an end
of the input it is not looked at. -/
theorem reading_ends_opened :
    ((∀ t ∈ openedTokens ++ [closingToken], t.kind ≠ .endOfInput) ∧
      (∃ place, EndsAt (openedTokens ++ [closingToken]) place
        (parseTokens (openedTokens ++ [closingToken]))) ∧
      (parseTokens (openedTokens ++ [closingToken])).error ≠ none) ∧
    (∀ t ∈ openedTokens, t.kind ≠ .endOfInput) ∧
      (parseTokens (openedTokens ++ .atEnd 14 :: [closingToken])).position ≤ 5 := by
  have hinner : ∀ t ∈ openedTokens ++ [closingToken], t.kind ≠ .endOfInput := by
    decide
  have hplain : ∀ t ∈ openedTokens, t.kind ≠ .endOfInput := by
    decide
  obtain ⟨hends, herror, -⟩ := (reading_ends (openedTokens ++ [closingToken])).2
    openedTokens closingToken rfl hinner (by decide) (by decide)
  obtain ⟨-, -, hposition, -⟩ := (reading_ends (openedTokens ++ .atEnd 14 :: [closingToken])).1
    openedTokens (.atEnd 14) [closingToken] rfl hplain rfl
  exact ⟨⟨hinner, hends, herror⟩, hplain, hposition⟩

end TaskQuery.Query
