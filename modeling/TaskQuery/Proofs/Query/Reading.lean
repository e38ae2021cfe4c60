import TaskQuery.Proofs.Query.Moves
/-!
# Reading tokens one at a time

What a whole run is made of: tokens that are taken, and one that ends the run. Every token taken
is counted, notes its field if it is an identifier, and is not the end of the input.
-/

namespace TaskQuery.Query.Parse

open Grammar (valueOf? fieldNames)

variable {s after : State} {t : Token} {field : String}

/-! ## Tokens that are taken -/

/-- What a taken token does, whatever the phase: it is counted, it notes its field if it
is an identifier, and it is not the end of the input. -/
structure Taken (s : State) (t : Token) (after : State) : Prop where
  position : after.position = s.position + 1
  fields : after.fields =
    if t.kind = .identifier then noted s.fields (Text.lower t.text) else s.fields
  inner : t.kind ≠ .endOfInput

theorem Taken.of_kind (hp : after.position = s.position + 1) (hf : after.fields = s.fields)
    (hi : t.kind ≠ .identifier) (he : t.kind ≠ .endOfInput) : Taken s t after :=
  ⟨hp, by rw [if_neg hi, hf], he⟩

theorem Phase.Continues.isTestKind {phase next : Phase} (h : phase.Continues t next) :
    Grammar.isTestKind t.kind = true := by
  cases h with
  | sign sign => exact (Grammar.OperatorWord.mk t _ sign).isTestKind
  | literal value => exact (Grammar.ValueWord.mk t _ value).isTestKind
  | lowBound value => exact (Grammar.ValueWord.mk t _ value).isTestKind
  | highBound value => exact (Grammar.ValueWord.mk t _ value).isTestKind
  | firstItem value => exact (Grammar.ValueWord.mk t _ value).isTestKind
  | nextItem value => exact (Grammar.ValueWord.mk t _ value).isTestKind
  | _ kind => rw [kind]; rfl

theorem Moves.taken (h : Moves s t after) : Taken s t after := by
  cases h with
  | continues h =>
      have hkind := h.isTestKind
      refine .of_kind rfl rfl ?_ ?_ <;> intro hk <;> simp [hk, Grammar.isTestKind] at hkind
  | field ready kind => exact ⟨rfl, by rw [if_pos kind]; rfl, by simp [kind]⟩
  | _ _ kind => exact .of_kind rfl rfl (by simp [kind]) (by simp [kind])

/-! ## Endings -/

/-- The `NOT` that is given back if the next token does not fit it. -/
def Phase.word? : Phase → Option Token
  | .negation word => some word
  | .fieldNot _ word => some word
  | _ => none

/-- How a token ends the reading, and with which outcome. -/
inductive Ending (s : State) (t : Token) : Outcome → Prop where
  /-- The token is not what was wanted. -/
  | refused (wanted : Wanted) (plain : wanted ≠ .numberLiteral) :
      Ending s t
        { tree := .empty
          fields := s.fields
          error := some (.mismatch wanted t)
          position := s.position }
  /-- The token is a number that cannot be read, and is taken all the same. -/
  | unreadable (bad : Literal.ofToken t = .badNumber) :
      Ending s t
        { tree := .empty
          fields := s.fields
          error := some (.mismatch .numberLiteral t)
          position := s.position + 1 }
  /-- The token does not fit the `NOT` in front of it, which is given back. -/
  | givenBack (wanted : Wanted) (plain : wanted ≠ .numberLiteral) (word : Token)
      (behind : s.phase.word? = some word) :
      Ending s t
        { tree := .empty
          fields := s.fields
          error := some (.mismatch wanted word)
          position := s.position - 1 }
  /-- The token stands behind a whole operand and outside all parentheses. -/
  | complete (operand : Expr) (whole : s.phase = .complete operand) (outer : s.outer = []) :
      Ending s t
        { tree := s.level.whole operand
          fields := s.fields
          error := if t.kind = .endOfInput then none else some (.leftover t)
          position := s.position }

variable {o : Outcome}

theorem fail_ending {wanted : Wanted} (h : s.fail wanted t = .stop o)
    (plain : wanted ≠ .numberLiteral) : Ending s t o :=
  Step.stop.inj h ▸ .refused wanted plain

theorem giveBack_ending {wanted : Wanted} {word : Token}
    (h : s.giveBack.fail wanted word = .stop o) (plain : wanted ≠ .numberLiteral)
    (behind : s.phase.word? = some word) : Ending s t o :=
  Step.stop.inj h ▸ .givenBack wanted plain word behind

theorem take_ne_stop {phase : Phase} : s.take phase ≠ .stop o := by
  simp [State.take]

theorem takeLiteral_ending {phase : Value → Phase} (h : s.takeLiteral t phase = .stop o) :
    Ending s t o := by
  unfold State.takeLiteral at h
  split at h
  · exact absurd h take_ne_stop
  · rename_i hbad
    exact Step.stop.inj h ▸ .unreadable hbad
  · exact fail_ending h (by decide)

theorem takeOperand_ending (level : Level)
    (h : { s with level }.takeOperand t = .stop o) : Ending s t o := by
  unfold State.takeOperand at h
  split at h
  · exact absurd h take_ne_stop
  · exact absurd h take_ne_stop
  · exact absurd h take_ne_stop
  · exact Step.stop.inj h ▸ .refused .field (by decide)

theorem takeOperator_ending (h : s.takeOperator field t = .stop o) : Ending s t o := by
  unfold State.takeOperator at h
  split at h
  · exact absurd h take_ne_stop
  · exact absurd h take_ne_stop
  · exact absurd h take_ne_stop
  · exact absurd h take_ne_stop
  · split at h
    · exact absurd h take_ne_stop
    · exact fail_ending h (by decide)

theorem takeConnective_ending {operand : Expr} (hp : s.phase = .complete operand)
    (h : s.takeConnective operand t = .stop o) : Ending s t o := by
  unfold State.takeConnective at h
  split at h
  · exact absurd h take_ne_stop
  · exact absurd h take_ne_stop
  · exact absurd h take_ne_stop
  · exact fail_ending h (by decide)
  · rename_i hs _ _
    exact Step.stop.inj h ▸ .complete operand hp hs

theorem word_ending {kind : TokenKind} {phase : Phase} {otherwise : Step}
    (h : (if t.kind = kind then s.take phase else otherwise) = .stop o)
    (ho : otherwise = .stop o → Ending s t o) : Ending s t o := by
  split at h
  · exact absurd h take_ne_stop
  · exact ho h

theorem step_ending (h : step s t = .stop o) : Ending s t o := by
  cases hp : s.phase <;> simp only [step, hp] at h
  case complete operand => exact takeConnective_ending hp h
  case operand => exact takeOperand_ending s.level h
  case operator field => exact takeOperator_ending h
  case negation word =>
      split at h
      · exact giveBack_ending h (by decide) (by rw [hp]; rfl)
      · exact takeOperand_ending _ h
  case fieldNot field word =>
      exact word_ending h fun h => giveBack_ending h (by decide) (by rw [hp]; rfl)
  case firstItem field op => exact word_ending h takeLiteral_ending
  case isTest field =>
      exact word_ending h fun h => word_ending h fun h => fail_ending h (by decide)
  case listClosing field op items =>
      exact word_ending h fun h => word_ending h fun h => fail_ending h (by decide)
  case isNotTest field => exact word_ending h fun h => fail_ending h (by decide)
  case rangeAnd field low => exact word_ending h fun h => fail_ending h (by decide)
  case listOpening field op => exact word_ending h fun h => fail_ending h (by decide)
  all_goals exact takeLiteral_ending h

/-- An ending that leaves no tree, because something else was wanted. -/
structure Refuses (s : State) (o : Outcome) : Prop where
  tree : o.tree = .empty
  fields : o.fields = s.fields
  error : ∃ wanted found, o.error = some (.mismatch wanted found)

structure Completes (s : State) (t : Token) (o : Outcome) : Prop where
  outer : s.outer = []
  tree : ∃ operand, s.phase = .complete operand ∧ o.tree = s.level.whole operand
  fields : o.fields = s.fields
  error : o.error = if t.kind = .endOfInput then none else some (.leftover t)

structure Accepts (s : State) (t : Token) (o : Outcome) : Prop where
  kind : t.kind = .endOfInput
  outer : s.outer = []
  tree : ∃ operand, s.phase = .complete operand ∧ o.tree = s.level.whole operand
  fields : o.fields = s.fields

/-- A token that ends the reading either is refused, or stands behind a whole query. -/
theorem step_stops (h : step s t = .stop o) : Refuses s o ∨ Completes s t o := by
  cases step_ending h with
  | refused wanted plain => exact Or.inl ⟨rfl, rfl, wanted, t, rfl⟩
  | unreadable bad => exact Or.inl ⟨rfl, rfl, .numberLiteral, t, rfl⟩
  | givenBack wanted plain word behind => exact Or.inl ⟨rfl, rfl, wanted, word, rfl⟩
  | complete operand whole outer => exact Or.inr ⟨outer, ⟨operand, whole, rfl⟩, rfl, rfl⟩

/-- Only the end of the input, after a whole operand and outside all parentheses, ends a
reading without an error. -/
theorem step_accepts (h : step s t = .stop o) (ho : o.error = none) : Accepts s t o := by
  rcases step_stops h with hrefuses | hcompletes
  · obtain ⟨wanted, found, herror⟩ := hrefuses.error
    rw [herror] at ho
    cases ho
  · have hkind : t.kind = .endOfInput := by
      by_cases hk : t.kind = .endOfInput
      · exact hk
      · rw [hcompletes.error, if_neg hk] at ho
        cases ho
    exact ⟨hkind, hcompletes.outer, hcompletes.tree, hcompletes.fields⟩

theorem step_of_end {operand : Expr} (whole : s.phase = .complete operand) (outer : s.outer = [])
    (ends : t.kind = .endOfInput) :
    step s t = .stop
      { tree := s.level.whole operand
        fields := s.fields
        error := none
        position := s.position } := by
  simp [step, whole, State.takeConnective, outer, ends]

/-! ## Runs -/

def advance? (s : State) : List Token → Option State
  | [] => some s
  | t :: rest =>
      match step s t with
      | .next after => advance? after rest
      | .stop _ => none

@[simp] theorem advance?_nil (s : State) : advance? s [] = some s := rfl

theorem advance?_cons {rest : List Token} {last : State} :
    advance? s (t :: rest) = some last ↔
      ∃ middle, Moves s t middle ∧ advance? middle rest = some last := by
  simp only [← step_next_iff]
  rw [advance?]
  cases step s t with
  | next middle => simp
  | stop o => simp

theorem advance?_single (h : Moves s t after) : advance? s [t] = some after :=
  advance?_cons.2 ⟨after, h, rfl⟩

theorem advance?_append {a b : List Token} {last : State} :
    advance? s (a ++ b) = some last ↔
      ∃ middle, advance? s a = some middle ∧ advance? middle b = some last := by
  induction a generalizing s with
  | nil => simp
  | cons t rest ih =>
      simp only [List.cons_append, advance?_cons, ih]
      constructor
      · rintro ⟨first, hs, middle, ha, hb⟩
        exact ⟨middle, ⟨first, hs, ha⟩, hb⟩
      · rintro ⟨middle, ⟨first, hs, ha⟩, hb⟩
        exact ⟨first, hs, middle, ha, hb⟩

theorem run_append {taken : List Token} (h : advance? s taken = some after)
    (rest : List Token) : run s (taken ++ rest) = run after rest := by
  induction taken generalizing s with
  | nil => rw [← Option.some.inj h, List.nil_append]
  | cons t others ih =>
      obtain ⟨middle, hs, ha⟩ := advance?_cons.1 h
      rw [List.cons_append, run, step_of_moves hs]
      exact ih ha

theorem run_stops {tokens : List Token} (h : advance? s tokens = none) :
    ∃ taken t rest last, tokens = taken ++ t :: rest ∧ advance? s taken = some last ∧
      step last t = .stop (run s tokens) := by
  induction tokens generalizing s with
  | nil => cases h
  | cons t rest ih =>
      cases hs : step s t with
      | next middle =>
          rw [advance?, hs] at h
          have hr : run s (t :: rest) = run middle rest := by rw [run, hs]
          obtain ⟨taken, u, others, last, rfl, ha, hstop⟩ := ih h
          exact ⟨t :: taken, u, others, last, rfl, advance?_cons.2 ⟨middle, moves_of_step hs, ha⟩,
            hr ▸ hstop⟩
      | stop o =>
          have hr : run s (t :: rest) = o := by rw [run, hs]
          exact ⟨[], t, rest, s, rfl, rfl, hr ▸ hs⟩

theorem run_append_of_stops {tokens : List Token} (h : advance? s tokens = none)
    (more : List Token) : run s (tokens ++ more) = run s tokens := by
  obtain ⟨taken, t, rest, last, hsplit, ha, hstop⟩ := run_stops h
  have hfront : tokens ++ more = taken ++ t :: (rest ++ more) := by
    rw [hsplit, List.append_assoc, List.cons_append]
  rw [hfront, run_append ha, run, hstop]

/-- A run takes all tokens without an end, or it takes tokens up to one that ends it. -/
theorem run_cases (s : State) (tokens : List Token) :
    ((run s tokens).tree = .empty ∧ (run s tokens).error = some .endless) ∨
      ∃ taken t rest last, tokens = taken ++ t :: rest ∧ advance? s taken = some last ∧
        step last t = .stop (run s tokens) := by
  cases h : advance? s tokens with
  | none => exact Or.inr (run_stops h)
  | some last =>
      have hr := run_append h []
      rw [List.append_nil] at hr
      rw [hr]
      exact Or.inl ⟨rfl, rfl⟩

theorem run_accepts {tokens : List Token} (h : (run s tokens).error = none) :
    ∃ taken t rest last, tokens = taken ++ t :: rest ∧ advance? s taken = some last ∧
      Accepts last t (run s tokens) := by
  rcases run_cases s tokens with ⟨-, hendless⟩ | ⟨taken, t, rest, last, hsplit, ha, hstop⟩
  · rw [hendless] at h
    cases h
  · exact ⟨taken, t, rest, last, hsplit, ha, step_accepts hstop h⟩

theorem advance?_inner {taken : List Token} (h : advance? s taken = some after) :
    ∀ t ∈ taken, t.kind ≠ .endOfInput := by
  induction taken generalizing s with
  | nil => simp
  | cons t rest ih =>
      obtain ⟨middle, hs, ha⟩ := advance?_cons.1 h
      intro u hu
      rcases List.mem_cons.1 hu with rfl | hu
      · exact hs.taken.inner
      · exact ih ha u hu

theorem advance?_fields {taken : List Token} (h : advance? s taken = some after) :
    after.fields = (fieldNames taken).foldl noted s.fields := by
  induction taken generalizing s with
  | nil => rw [← Option.some.inj h]; rfl
  | cons t rest ih =>
      obtain ⟨middle, hs, ha⟩ := advance?_cons.1 h
      rw [ih ha, hs.taken.fields]
      by_cases hk : t.kind = .identifier
      · rw [if_pos hk, Grammar.fieldNames_identifier hk, List.foldl_cons]
      · rw [if_neg hk, Grammar.fieldNames_other hk]

theorem advance?_position {taken : List Token} (h : advance? s taken = some after) :
    after.position = s.position + taken.length := by
  induction taken generalizing s with
  | nil => rw [← Option.some.inj h]; rfl
  | cons t rest ih =>
      obtain ⟨middle, hs, ha⟩ := advance?_cons.1 h
      rw [ih ha, hs.taken.position, List.length_cons]
      omega

end TaskQuery.Query.Parse
