import TaskQuery.Proofs.Query.Grammar
/-!
# What one token does

A token that is taken moves the reader on. Inside of a comparison it changes the phase alone; in
front of an operand it negates it, opens a group or is a field; behind an operand it is a
connective or closes a group. The moves are those steps that do not end the reading
(`step_next_iff`), so that what holds of all readings is a fact about each move.
-/

namespace TaskQuery.Query.Parse

open Grammar (valueOf?)

variable {s after : State} {t : Token}

/-! ## States -/

def noted (seen : List String) (name : String) : List String :=
  if seen.contains name then seen else seen ++ [name]

def State.opened (s : State) : State :=
  { s with phase := .operand, level := {}, outer := s.level :: s.outer,
           position := s.position + 1 }

def State.named (s : State) (t : Token) : State :=
  { s with phase := .operator (Text.lower t.text), fields := noted s.fields (Text.lower t.text),
           position := s.position + 1 }

def State.moved (s : State) (phase : Phase) : State :=
  { s with phase, position := s.position + 1 }

@[simp] theorem phase_moved (s : State) (phase : Phase) : (s.moved phase).phase = phase := rfl

@[simp] theorem take_eq (s : State) (phase : Phase) : s.take phase = .next (s.moved phase) := rfl

@[simp] theorem fail_ne_next {wanted : Wanted} : s.fail wanted t ≠ .next after := nofun

/-! ## Moves -/

inductive Phase.Continues (t : Token) : Phase → Phase → Prop where
  | isWord {field : String} (kind : t.kind = .is) :
      Continues t (.operator field) (.isTest field)
  | fieldNot {field : String} (kind : t.kind = .not) :
      Continues t (.operator field) (.fieldNot field t)
  | within {field : String} (kind : t.kind = .within) :
      Continues t (.operator field) (.listOpening field .within)
  | between {field : String} (kind : t.kind = .between) :
      Continues t (.operator field) (.lowBound field)
  | sign {field : String} {op : Operator} (sign : Operator.ofToken? t.kind = some op) :
      Continues t (.operator field) (.literal field op)
  | notWithin {field : String} {word : Token} (kind : t.kind = .within) :
      Continues t (.fieldNot field word) (.listOpening field .notWithin)
  | null {field : String} (kind : t.kind = .null) :
      Continues t (.isTest field) (.complete (.comparison field .isNull .null))
  | isNot {field : String} (kind : t.kind = .not) :
      Continues t (.isTest field) (.isNotTest field)
  | notNull {field : String} (kind : t.kind = .null) :
      Continues t (.isNotTest field) (.complete (.comparison field .isNotNull .null))
  | literal {field : String} {op : Operator} {v : Value} (value : valueOf? t = some v) :
      Continues t (.literal field op) (.complete (.comparison field op v))
  | lowBound {field : String} {v : Value} (value : valueOf? t = some v) :
      Continues t (.lowBound field) (.rangeAnd field v)
  | rangeAnd {field : String} {low : Value} (kind : t.kind = .and) :
      Continues t (.rangeAnd field low) (.highBound field low)
  | highBound {field : String} {low v : Value} (value : valueOf? t = some v) :
      Continues t (.highBound field low) (.complete (.comparison field .between (.list [low, v])))
  | opening {field : String} {op : Operator} (kind : t.kind = .leftParen) :
      Continues t (.listOpening field op) (.firstItem field op)
  | noItem {field : String} {op : Operator} (kind : t.kind = .rightParen) :
      Continues t (.firstItem field op) (.complete (.comparison field op (.list [])))
  | firstItem {field : String} {op : Operator} {v : Value} (value : valueOf? t = some v) :
      Continues t (.firstItem field op) (.listClosing field op [v])
  | comma {field : String} {op : Operator} {items : List Value} (kind : t.kind = .comma) :
      Continues t (.listClosing field op items) (.nextItem field op items)
  | closing {field : String} {op : Operator} {items : List Value} (kind : t.kind = .rightParen) :
      Continues t (.listClosing field op items)
        (.complete (.comparison field op (.list items.reverse)))
  | nextItem {field : String} {op : Operator} {items : List Value} {v : Value}
      (value : valueOf? t = some v) :
      Continues t (.nextItem field op items) (.listClosing field op (v :: items))

/-- A state that waits for an operand, with the negations in front of it counted into the
level. -/
def Ready (s : State) (level : Level) : Prop :=
  (s.phase = .operand ∧ level = s.level) ∨
    ∃ word, s.phase = .negation word ∧
      level = { s.level with negations := s.level.negations + 1 }

/-- What a token that is taken makes of a state. -/
inductive Moves (s : State) (t : Token) : State → Prop where
  /-- A comparison goes on. -/
  | continues {phase : Phase} (h : s.phase.Continues t phase) : Moves s t (s.moved phase)
  /-- An operand is negated. -/
  | negation {level : Level} (ready : Ready s level) (kind : t.kind = .not) :
      Moves s t ({ s with level }.moved (.negation t))
  /-- A group opens. -/
  | opening {level : Level} (ready : Ready s level) (kind : t.kind = .leftParen) :
      Moves s t { s with level }.opened
  /-- A comparison begins. -/
  | field {level : Level} (ready : Ready s level) (kind : t.kind = .identifier) :
      Moves s t ({ s with level }.named t)
  /-- The operand is the left side of an `AND`. -/
  | and {operand : Expr} (whole : s.phase = .complete operand) (kind : t.kind = .and) :
      Moves s t { s.moved .operand with level := s.level.afterAnd operand }
  /-- The operand is the left side of an `OR`. -/
  | or {operand : Expr} (whole : s.phase = .complete operand) (kind : t.kind = .or) :
      Moves s t { s.moved .operand with level := s.level.afterOr operand }
  /-- A group closes. -/
  | closing {operand : Expr} {level : Level} {outer : List Level}
      (whole : s.phase = .complete operand) (kind : t.kind = .rightParen)
      (inside : s.outer = level :: outer) :
      Moves s t { s.moved (.complete (.group (s.level.whole operand))) with level, outer }

/-! ## Steps that are moves -/

theorem ofToken_eq_value_iff {v : Value} : Literal.ofToken t = .value v ↔ valueOf? t = some v := by
  unfold Literal.ofToken valueOf?
  cases hk : t.kind
  case number =>
      simp only [Grammar.numberOf?]
      by_cases hp : t.text.toList.contains '.' = true
      · rw [if_pos hp, if_pos hp]
        cases Number.readDecimal? t.text <;> simp
      · rw [if_neg hp, if_neg hp]
        cases Number.readInt? Number.digitLimit t.text <;> simp
  all_goals simp

theorem takeLiteral_of_value {v : Value} (h : valueOf? t = some v) (phase : Value → Phase) :
    s.takeLiteral t phase = .next (s.moved (phase v)) := by
  rw [State.takeLiteral, ofToken_eq_value_iff.2 h]
  rfl

theorem takeOperator_of_sign {field : String} {op : Operator}
    (h : Operator.ofToken? t.kind = some op) :
    s.takeOperator field t = .next (s.moved (.literal field op)) := by
  unfold State.takeOperator
  cases hk : t.kind <;> rw [hk] at h <;> simp only [h] <;> first | rfl | cases h

theorem step_continues {phase : Phase} (h : s.phase.Continues t phase) :
    step s t = .next (s.moved phase) := by
  generalize hp : s.phase = start at h
  rw [step, hp]
  cases h with
  | sign sign => exact takeOperator_of_sign sign
  | literal value => exact takeLiteral_of_value value _
  | lowBound value => exact takeLiteral_of_value value _
  | highBound value => exact takeLiteral_of_value value _
  | nextItem value => exact takeLiteral_of_value value _
  | firstItem value =>
      have hk : t.kind ≠ .rightParen := by
        intro hk
        simp [valueOf?, hk] at value
      simp only [if_neg hk]
      exact takeLiteral_of_value value _
  | isWord kind => simp [State.takeOperator, kind]
  | fieldNot kind => simp [State.takeOperator, kind]
  | within kind => simp [State.takeOperator, kind]
  | between kind => simp [State.takeOperator, kind]
  | notWithin kind => simp [kind]
  | null kind => simp [kind]
  | isNot kind => simp [kind]
  | notNull kind => simp [kind]
  | rangeAnd kind => simp [kind]
  | opening kind => simp [kind]
  | noItem kind => simp [kind]
  | comma kind => simp [kind]
  | closing kind => simp [kind]

theorem step_ready {level : Level} (h : Ready s level) (hk : t.kind ≠ .within) :
    step s t = { s with level }.takeOperand t := by
  rcases h with ⟨hp, rfl⟩ | ⟨word, hp, rfl⟩
  · have hs : step s t = s.takeOperand t := by simp only [step, hp]
    exact hs
  · simp only [step, hp, if_neg hk]

theorem step_of_moves (h : Moves s t after) : step s t = .next after := by
  cases h with
  | continues h => exact step_continues h
  | negation ready kind =>
      rw [step_ready ready (by simp [kind])]
      simp [State.takeOperand, kind]
  | opening ready kind =>
      rw [step_ready ready (by simp [kind])]
      simp [State.takeOperand, kind, State.opened, State.moved]
  | field ready kind =>
      rw [step_ready ready (by simp [kind])]
      simp [State.takeOperand, kind, State.takeField, State.named, State.moved, noted]
  | and whole kind => simp [step, whole, State.takeConnective, kind, State.moved]
  | or whole kind => simp [step, whole, State.takeConnective, kind, State.moved]
  | closing whole kind inside =>
      simp [step, whole, State.takeConnective, kind, inside, State.moved]

theorem takeLiteral_next {phase : Value → Phase} (h : s.takeLiteral t phase = .next after) :
    ∃ v, valueOf? t = some v ∧ after = s.moved (phase v) := by
  unfold State.takeLiteral at h
  split at h
  · rename_i v hv
    exact ⟨v, ofToken_eq_value_iff.1 hv, (Step.next.inj h).symm⟩
  · exact absurd h fail_ne_next
  · exact absurd h fail_ne_next

theorem word_next {kind : TokenKind} {phase : Phase} {otherwise : Step}
    (h : (if t.kind = kind then s.take phase else otherwise) = .next after) :
    (t.kind = kind ∧ after = s.moved phase) ∨ otherwise = .next after := by
  split at h
  · rename_i hk
    exact Or.inl ⟨hk, (Step.next.inj h).symm⟩
  · exact Or.inr h

theorem word_next_only {kind : TokenKind} {phase : Phase} {wanted : Wanted} {u : Token}
    {s' : State} (h : (if t.kind = kind then s.take phase else s'.fail wanted u) = .next after) :
    t.kind = kind ∧ after = s.moved phase := by
  rcases word_next h with h | h
  · exact h
  · exact absurd h fail_ne_next

theorem moves_of_takeOperand {level : Level} (ready : Ready s level)
    (h : { s with level }.takeOperand t = .next after) : Moves s t after := by
  unfold State.takeOperand at h
  split at h <;> rename_i hk
  · exact Step.next.inj h ▸ .negation ready hk
  · exact Step.next.inj h ▸ .opening ready hk
  · exact Step.next.inj h ▸ .field ready hk
  · exact absurd h fail_ne_next

theorem moves_of_takeOperator {field : String} (hp : s.phase = .operator field)
    (h : s.takeOperator field t = .next after) : Moves s t after := by
  unfold State.takeOperator at h
  split at h
  · rename_i hk
    exact Step.next.inj h ▸ .continues (hp ▸ .isWord hk)
  · rename_i hk
    exact Step.next.inj h ▸ .continues (hp ▸ .fieldNot hk)
  · rename_i hk
    exact Step.next.inj h ▸ .continues (hp ▸ .within hk)
  · rename_i hk
    exact Step.next.inj h ▸ .continues (hp ▸ .between hk)
  · split at h
    · rename_i op ho
      exact Step.next.inj h ▸ .continues (hp ▸ .sign ho)
    · exact absurd h fail_ne_next

theorem moves_of_takeConnective {operand : Expr} (hp : s.phase = .complete operand)
    (h : s.takeConnective operand t = .next after) : Moves s t after := by
  unfold State.takeConnective at h
  split at h
  · rename_i hk
    exact Step.next.inj h ▸ .and hp hk
  · rename_i hk
    exact Step.next.inj h ▸ .or hp hk
  · rename_i level outer hk ho
    exact Step.next.inj h ▸ .closing hp hk ho
  · exact absurd h fail_ne_next
  · exact absurd h nofun

/-- The cases are the phases; inside of a comparison each takes one or two kinds of words, or a
literal. -/
theorem moves_of_step (h : step s t = .next after) : Moves s t after := by
  have word {phase : Phase} {kind : TokenKind} (hword : t.kind = kind ∧ after = s.moved phase)
      (k : t.kind = kind → s.phase.Continues t phase) : Moves s t after :=
    hword.2 ▸ .continues (k hword.1)
  have literal {phase : Value → Phase} (hliteral : s.takeLiteral t phase = .next after)
      (k : ∀ v, valueOf? t = some v → s.phase.Continues t (phase v)) : Moves s t after := by
    obtain ⟨v, hv, rfl⟩ := takeLiteral_next hliteral
    exact .continues (k v hv)
  cases hp : s.phase <;> simp only [step, hp] at h
  case operand => exact moves_of_takeOperand (Or.inl ⟨hp, rfl⟩) h
  case negation previous =>
      split at h
      · exact absurd h fail_ne_next
      · exact moves_of_takeOperand (Or.inr ⟨previous, hp, rfl⟩) h
  case operator field => exact moves_of_takeOperator hp h
  case fieldNot field previous => exact word (word_next_only h) fun hk => hp ▸ .notWithin hk
  case isTest field =>
      rcases word_next h with h | h
      · exact word h fun hk => hp ▸ .null hk
      · exact word (word_next_only h) fun hk => hp ▸ .isNot hk
  case isNotTest field => exact word (word_next_only h) fun hk => hp ▸ .notNull hk
  case literal field op => exact literal h fun v hv => hp ▸ .literal hv
  case lowBound field => exact literal h fun v hv => hp ▸ .lowBound hv
  case rangeAnd field low => exact word (word_next_only h) fun hk => hp ▸ .rangeAnd hk
  case highBound field low => exact literal h fun v hv => hp ▸ .highBound hv
  case listOpening field op => exact word (word_next_only h) fun hk => hp ▸ .opening hk
  case firstItem field op =>
      rcases word_next h with h | h
      · exact word h fun hk => hp ▸ .noItem hk
      · exact literal h fun v hv => hp ▸ .firstItem hv
  case listClosing field op items =>
      rcases word_next h with h | h
      · exact word h fun hk => hp ▸ .comma hk
      · exact word (word_next_only h) fun hk => hp ▸ .closing hk
  case nextItem field op items => exact literal h fun v hv => hp ▸ .nextItem hv
  case complete operand => exact moves_of_takeConnective hp h

theorem step_next_iff : step s t = .next after ↔ Moves s t after :=
  ⟨moves_of_step, step_of_moves⟩

end TaskQuery.Query.Parse
