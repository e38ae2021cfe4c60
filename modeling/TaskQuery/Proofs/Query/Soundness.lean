import TaskQuery.Proofs.Query.Reading
/-!
# Accepted queries are derivable

The tokens taken so far are a derivation with its right end missing. Each open
parenthesis holds a disjunction, a conjunction and negations that wait for an operand, and
the operand at hand has its own tokens. A token that is taken extends this reading, and
the end of the input closes it into a derivation of all tokens.
-/

namespace TaskQuery.Query.Parse

open Grammar

variable {s after : State} {t : Token}

/-! ## The operand at hand -/

inductive ListHead : Operator → List Token → Prop where
  | within (word : Word .within) : ListHead .within [word.1]
  | notWithin (not : Word .not) (word : Word .within) : ListHead .notWithin [not.1, word.1]

theorem ListHead.test {op : Operator} {head : List Token} (h : ListHead op head)
    (listing : Listing) : ∃ test : Test, test.tokens = head ++ listing.tokens ∧
      test.op = op ∧ test.value = .list listing.values := by
  cases h with
  | within word => exact ⟨.within word listing, rfl, rfl, rfl⟩
  | notWithin not word => exact ⟨.notWithin not word listing, rfl, rfl, rfl⟩

/-- The tokens that a phase stands for. -/
inductive Pending : Phase → List Token → Prop where
  | operand : Pending .operand []
  | negation (word : Word .not) : Pending (.negation word.1) [word.1]
  | operator (f : Word .identifier) : Pending (.operator (Text.lower f.1.text)) [f.1]
  | fieldNot (f : Word .identifier) (word : Word .not) :
      Pending (.fieldNot (Text.lower f.1.text) word.1) [f.1, word.1]
  | isTest (f : Word .identifier) (is : Word .is) :
      Pending (.isTest (Text.lower f.1.text)) [f.1, is.1]
  | isNotTest (f : Word .identifier) (is : Word .is) (not : Word .not) :
      Pending (.isNotTest (Text.lower f.1.text)) [f.1, is.1, not.1]
  | literal (f : Word .identifier) (sign : OperatorWord) :
      Pending (.literal (Text.lower f.1.text) sign.op) [f.1, sign.token]
  | lowBound (f : Word .identifier) (word : Word .between) :
      Pending (.lowBound (Text.lower f.1.text)) [f.1, word.1]
  | rangeAnd (f : Word .identifier) (word : Word .between) (low : ValueWord) :
      Pending (.rangeAnd (Text.lower f.1.text) low.value) [f.1, word.1, low.token]
  | highBound (f : Word .identifier) (word : Word .between) (low : ValueWord)
      (and : Word .and) :
      Pending (.highBound (Text.lower f.1.text) low.value) [f.1, word.1, low.token, and.1]
  | listOpening (f : Word .identifier) {op : Operator} {head : List Token}
      (h : ListHead op head) :
      Pending (.listOpening (Text.lower f.1.text) op) (f.1 :: head)
  | firstItem (f : Word .identifier) {op : Operator} {head : List Token}
      (h : ListHead op head) (opening : Word .leftParen) :
      Pending (.firstItem (Text.lower f.1.text) op) (f.1 :: head ++ [opening.1])
  | listClosing (f : Word .identifier) {op : Operator} {head : List Token}
      (h : ListHead op head) (opening : Word .leftParen) (items : Items) :
      Pending (.listClosing (Text.lower f.1.text) op items.values.reverse)
        (f.1 :: head ++ opening.1 :: items.tokens)
  | nextItem (f : Word .identifier) {op : Operator} {head : List Token}
      (h : ListHead op head) (opening : Word .leftParen) (items : Items)
      (comma : Word .comma) :
      Pending (.nextItem (Text.lower f.1.text) op items.values.reverse)
        (f.1 :: head ++ opening.1 :: items.tokens ++ [comma.1])
  | complete (d : Derivation .primary) : Pending (.complete d.tree) d.tokens

theorem pending_listing (f : Word .identifier) {op : Operator} {head : List Token}
    (h : ListHead op head) (listing : Listing) :
    Pending (.complete (.comparison (Text.lower f.1.text) op (.list listing.values)))
      (f.1 :: head ++ listing.tokens) := by
  obtain ⟨test, ht, ho, hv⟩ := h.test listing
  have hc := Pending.complete (.comparison f test)
  rw [Derivation.tree, Derivation.tokens, ht, ho, hv] at hc
  exact hc

/-- The cases are the phases inside of a comparison, each with the one or two ways it goes on. -/
theorem Pending.continues {phase next : Phase} {pending : List Token} (h : Pending phase pending)
    (k : phase.Continues t next) : Pending next (pending ++ [t]) := by
  cases h with
  | operand => cases k
  | negation word => cases k
  | complete d => cases k
  | operator f =>
      cases k with
      | isWord kind => exact .isTest f ⟨t, kind⟩
      | fieldNot kind => exact .fieldNot f ⟨t, kind⟩
      | within kind => exact .listOpening f (.within ⟨t, kind⟩)
      | between kind => exact .lowBound f ⟨t, kind⟩
      | sign sign => exact .literal f ⟨t, _, sign⟩
  | fieldNot f word =>
      cases k with
      | notWithin kind => exact .listOpening f (.notWithin word ⟨t, kind⟩)
  | isTest f is =>
      cases k with
      | null kind => exact .complete (.comparison f (.isNull is ⟨t, kind⟩))
      | isNot kind => exact .isNotTest f is ⟨t, kind⟩
  | isNotTest f is not =>
      cases k with
      | notNull kind => exact .complete (.comparison f (.isNotNull is not ⟨t, kind⟩))
  | literal f sign =>
      cases k with
      | literal value => exact .complete (.comparison f (.binary sign ⟨t, _, value⟩))
  | lowBound f word =>
      cases k with
      | lowBound value => exact .rangeAnd f word ⟨t, _, value⟩
  | rangeAnd f word low =>
      cases k with
      | rangeAnd kind => exact .highBound f word low ⟨t, kind⟩
  | highBound f word low and =>
      cases k with
      | highBound value =>
          exact .complete (.comparison f (.between word low and ⟨t, _, value⟩))
  | listOpening f head =>
      cases k with
      | opening kind => exact .firstItem f head ⟨t, kind⟩
  | firstItem f head opening =>
      cases k with
      | noItem kind =>
          have hlisting := pending_listing f head (.empty opening ⟨t, kind⟩)
          simpa [Listing.tokens, Listing.values] using hlisting
      | firstItem value =>
          have hitems := Pending.listClosing f head opening (.one ⟨t, _, value⟩)
          simpa [Items.tokens, Items.values] using hitems
  | listClosing f head opening items =>
      cases k with
      | comma kind => exact .nextItem f head opening items ⟨t, kind⟩
      | closing kind =>
          have hlisting := pending_listing f head (.filled opening items ⟨t, kind⟩)
          simpa [Listing.tokens, Listing.values] using hlisting
  | nextItem f head opening items comma =>
      cases k with
      | nextItem value =>
          have hitems := Pending.listClosing f head opening (.more items comma ⟨t, _, value⟩)
          simpa [Items.tokens, Items.values] using hitems

/-! ## The operands that wait -/

def HoldsDisjunct : Option Expr → List Token → Prop
  | none, tokens => tokens = []
  | some tree, tokens => ∃ (d : Derivation .disjunction) (word : Word .or),
      d.tree = tree ∧ tokens = d.tokens ++ [word.1]

def HoldsConjunct : Option Expr → List Token → Prop
  | none, tokens => tokens = []
  | some tree, tokens => ∃ (d : Derivation .conjunction) (word : Word .and),
      d.tree = tree ∧ tokens = d.tokens ++ [word.1]

def HoldsNegations : Nat → List Token → Prop
  | 0, tokens => tokens = []
  | n + 1, tokens => ∃ (word : Word .not) (rest : List Token),
      HoldsNegations n rest ∧ tokens = word.1 :: rest

/-- The tokens of all that waits in one level. -/
structure HoldsLevel (level : Level) (tokens : List Token) : Prop where
  intro ::
  parts : ∃ a b c, HoldsDisjunct level.disjunct a ∧ HoldsConjunct level.conjunct b ∧
    HoldsNegations level.negations c ∧ tokens = a ++ (b ++ c)

def HoldsLevels : Level → List Level → List Token → Prop
  | level, [], tokens => HoldsLevel level tokens
  | level, outer :: others, tokens => ∃ (a b : List Token) (opening : Word .leftParen),
      HoldsLevels outer others a ∧ HoldsLevel level b ∧ tokens = a ++ opening.1 :: b

theorem holdsLevel_empty : HoldsLevel {} [] :=
  ⟨[], [], [], rfl, rfl, rfl, rfl⟩

theorem holdsNegations_snoc {n : Nat} {tokens : List Token} (h : HoldsNegations n tokens)
    (word : Word .not) : HoldsNegations (n + 1) (tokens ++ [word.1]) := by
  induction n generalizing tokens with
  | zero =>
      obtain rfl : tokens = [] := h
      exact ⟨word, [], rfl, rfl⟩
  | succ n ih =>
      obtain ⟨first, rest, hr, rfl⟩ := h
      exact ⟨first, rest ++ [word.1], ih hr, rfl⟩

theorem negation_of_holds {n : Nat} {tokens : List Token} (h : HoldsNegations n tokens)
    (d : Derivation .primary) : ∃ e : Derivation .negation,
      e.tokens = tokens ++ d.tokens ∧ e.tree = Level.negate n d.tree := by
  induction n generalizing tokens with
  | zero =>
      obtain rfl : tokens = [] := h
      exact ⟨.bare d, rfl, rfl⟩
  | succ n ih =>
      obtain ⟨first, rest, hr, rfl⟩ := h
      obtain ⟨e, ht, he⟩ := ih hr
      refine ⟨.not first e, ?_, ?_⟩
      · rw [Derivation.tokens, ht]; rfl
      · rw [Derivation.tree, he]; rfl

theorem conjunction_of_holds {level : Level} {b c : List Token}
    (hb : HoldsConjunct level.conjunct b) (hc : HoldsNegations level.negations c)
    (d : Derivation .primary) : ∃ e : Derivation .conjunction,
      e.tokens = b ++ c ++ d.tokens ∧ e.tree = level.conjoin d.tree := by
  obtain ⟨e, ht, he⟩ := negation_of_holds hc d
  cases hl : level.conjunct with
  | none =>
      rw [hl] at hb
      obtain rfl : b = [] := hb
      refine ⟨.conjunct e, ht, ?_⟩
      rw [Level.conjoin, hl]
      exact he
  | some tree =>
      rw [hl] at hb
      obtain ⟨front, word, hf, rfl⟩ := hb
      refine ⟨.and front word e, ?_, ?_⟩
      · rw [Derivation.tokens, ht]
        simp
      · rw [Level.conjoin, hl, Derivation.tree, hf, he]

theorem disjunction_of_holds {level : Level} {tokens : List Token} (h : HoldsLevel level tokens)
    (d : Derivation .primary) : ∃ e : Derivation .disjunction,
      e.tokens = tokens ++ d.tokens ∧ e.tree = level.whole d.tree := by
  obtain ⟨a, b, c, ha, hb, hc, rfl⟩ := h.parts
  obtain ⟨e, ht, he⟩ := conjunction_of_holds hb hc d
  cases hl : level.disjunct with
  | none =>
      rw [hl] at ha
      obtain rfl : a = [] := ha
      refine ⟨.disjunct e, ht, ?_⟩
      rw [Level.whole, hl]
      exact he
  | some tree =>
      rw [hl] at ha
      obtain ⟨front, word, hf, rfl⟩ := ha
      refine ⟨.or front word e, ?_, ?_⟩
      · rw [Derivation.tokens, ht]
        simp
      · rw [Level.whole, hl, Derivation.tree, hf, he]

theorem holdsLevel_afterAnd {level : Level} {tokens : List Token} (h : HoldsLevel level tokens)
    (d : Derivation .primary) (word : Word .and) :
    HoldsLevel (level.afterAnd d.tree) (tokens ++ d.tokens ++ [word.1]) := by
  obtain ⟨a, b, c, ha, hb, hc, rfl⟩ := h.parts
  obtain ⟨e, ht, he⟩ := conjunction_of_holds hb hc d
  exact ⟨a, e.tokens ++ [word.1], [], ha, ⟨e, word, he, rfl⟩, rfl, by simp [ht]⟩

theorem holdsLevel_afterOr {level : Level} {tokens : List Token} (h : HoldsLevel level tokens)
    (d : Derivation .primary) (word : Word .or) :
    HoldsLevel (level.afterOr d.tree) (tokens ++ d.tokens ++ [word.1]) := by
  obtain ⟨e, ht, he⟩ := disjunction_of_holds h d
  exact ⟨e.tokens ++ [word.1], [], [], ⟨e, word, he, rfl⟩, rfl, rfl, by simp [ht]⟩

theorem holdsLevel_negation {level : Level} {tokens : List Token} (h : HoldsLevel level tokens)
    (word : Word .not) :
    HoldsLevel { level with negations := level.negations + 1 } (tokens ++ [word.1]) := by
  obtain ⟨a, b, c, ha, hb, hc, rfl⟩ := h.parts
  exact ⟨a, b, c ++ [word.1], ha, hb, holdsNegations_snoc hc word, by simp⟩

/-- A change of the innermost level carries over to all levels. -/
theorem holdsLevels_map {level level' : Level} {outer : List Level} {tokens more : List Token}
    (h : HoldsLevels level outer tokens)
    (k : ∀ inner, HoldsLevel level inner → HoldsLevel level' (inner ++ more)) :
    HoldsLevels level' outer (tokens ++ more) := by
  cases outer with
  | nil => exact k tokens h
  | cons next others =>
      obtain ⟨a, b, opening, ha, hb, rfl⟩ := h
      exact ⟨a, b ++ more, opening, ha, k b hb, by simp⟩

/-! ## What one token does -/

/-- What has been taken: the operands that wait, and the operand at hand. -/
structure Holds (s : State) (taken : List Token) : Prop where
  intro ::
  parts : ∃ a b, HoldsLevels s.level s.outer a ∧ Pending s.phase b ∧ taken = a ++ b

theorem holds_start : Holds .start [] :=
  ⟨[], [], holdsLevel_empty, .operand, rfl⟩

/-- In front of an operand all that is taken waits, the negation at hand among it. -/
theorem Holds.ready {taken : List Token} (h : Holds s taken) {level : Level}
    (ready : Ready s level) : HoldsLevels level s.outer taken := by
  obtain ⟨a, b, ha, hb, rfl⟩ := h.parts
  rcases ready with ⟨hp, rfl⟩ | ⟨previous, hp, rfl⟩ <;> rw [hp] at hb
  · cases hb with
    | operand => simpa using ha
  · cases hb with
    | negation word => exact holdsLevels_map ha fun inner hi => holdsLevel_negation hi word

/-- Behind an operand, the tokens are those of the levels and those of the operand. -/
theorem Holds.whole {taken : List Token} {operand : Expr} (h : Holds s taken)
    (whole : s.phase = .complete operand) :
    ∃ a, ∃ d : Derivation .primary, HoldsLevels s.level s.outer a ∧ taken = a ++ d.tokens ∧
      operand = d.tree := by
  obtain ⟨a, b, ha, hb, rfl⟩ := h.parts
  rw [whole] at hb
  cases hb with
  | complete d => exact ⟨a, d, ha, rfl, rfl⟩

theorem Holds.connective {taken : List Token} {operand : Expr} {level : Level}
    (h : Holds s taken) (whole : s.phase = .complete operand)
    (waits : ∀ inner, ∀ d : Derivation .primary, d.tree = operand → HoldsLevel s.level inner →
      HoldsLevel level (inner ++ d.tokens ++ [t])) :
    Holds { s.moved .operand with level } (taken ++ [t]) := by
  obtain ⟨a, d, ha, rfl, rfl⟩ := h.whole whole
  refine ⟨a ++ (d.tokens ++ [t]), [], ?_, .operand, by simp⟩
  apply holdsLevels_map ha
  intro inner hi
  rw [← List.append_assoc]
  exact waits inner d rfl hi

theorem Moves.holds {taken : List Token} (m : Moves s t after) (h : Holds s taken) :
    Holds after (taken ++ [t]) := by
  cases m with
  | continues k =>
      obtain ⟨a, b, ha, hb, rfl⟩ := h.parts
      exact ⟨a, b ++ [t], ha, hb.continues k, by simp⟩
  | negation ready kind => exact ⟨taken, [t], h.ready ready, .negation ⟨t, kind⟩, rfl⟩
  | opening ready kind =>
      exact ⟨taken ++ [t], [], ⟨taken, [], ⟨t, kind⟩, h.ready ready, holdsLevel_empty, rfl⟩,
        .operand, by simp⟩
  | field ready kind => exact ⟨taken, [t], h.ready ready, .operator ⟨t, kind⟩, rfl⟩
  | and whole kind =>
      exact h.connective whole fun _ d hd hi => hd ▸ holdsLevel_afterAnd hi d ⟨t, kind⟩
  | or whole kind =>
      exact h.connective whole fun _ d hd hi => hd ▸ holdsLevel_afterOr hi d ⟨t, kind⟩
  | closing whole kind inside =>
      obtain ⟨a, d, ha, rfl, rfl⟩ := h.whole whole
      rw [inside] at ha
      obtain ⟨x, y, opening, hx, hy, rfl⟩ := ha
      obtain ⟨e, ht, he⟩ := disjunction_of_holds hy d
      have hgroup := Pending.complete (.group opening e ⟨t, kind⟩)
      rw [Derivation.tree, he] at hgroup
      exact ⟨x, _, hx, hgroup, by simp [Derivation.tokens, ht]⟩

theorem advance?_holds {before taken : List Token} (h : Holds s before)
    (ha : advance? s taken = some after) : Holds after (before ++ taken) := by
  induction taken generalizing s before with
  | nil =>
      obtain rfl := Option.some.inj ha
      rw [List.append_nil]
      exact h
  | cons t rest ih =>
      obtain ⟨middle, hs, hr⟩ := advance?_cons.1 ha
      have hm := ih (hs.holds h) hr
      rwa [List.append_assoc] at hm

/-- All that was taken up to a whole operand outside all parentheses is one derivation, of
the query that the level makes of it. -/
theorem derivation_of_whole {taken : List Token} {operand : Expr} (h : Holds s taken)
    (houter : s.outer = []) (hphase : s.phase = .complete operand) :
    ∃ d : Derivation .disjunction, d.tokens = taken ∧ s.level.whole operand = d.tree := by
  obtain ⟨a, d, hl, rfl, rfl⟩ := h.whole hphase
  rw [houter] at hl
  obtain ⟨e, htokens, htree⟩ := disjunction_of_holds hl d
  exact ⟨e, htokens, htree.symm⟩

theorem derivation_of_accepts {taken : List Token} {o : Outcome} (h : Holds s taken)
    (ha : Accepts s t o) : ∃ d : Derivation .disjunction, d.tokens = taken ∧ o.tree = d.tree := by
  obtain ⟨operand, hphase, htree⟩ := ha.tree
  rw [htree]
  exact derivation_of_whole h ha.outer hphase

theorem derivation_of_completes {taken : List Token} {o : Outcome} (h : Holds s taken)
    (hc : Completes s t o) : ∃ d : Derivation .disjunction, d.tokens = taken ∧ o.tree = d.tree := by
  obtain ⟨operand, hphase, htree⟩ := hc.tree
  rw [htree]
  exact derivation_of_whole h hc.outer hphase

end TaskQuery.Query.Parse
