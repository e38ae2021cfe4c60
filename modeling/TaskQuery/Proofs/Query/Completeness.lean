import TaskQuery.Proofs.Query.Reading
/-!
# Derivable queries are read

From a state that waits for an operand, the tokens of a derivation are all taken. The
parts of a comparison change the phase alone. A chain of operands also changes the
innermost level, so what a derivation leaves behind is said in terms of the query that the
level amounts to with an operand at its end.
-/

namespace TaskQuery.Query.Parse

open Grammar

variable {s : State} {t : Token} {field : String}

/-! ## Comparisons -/

/-- Tokens are all taken, lead to a phase, and leave the operands that wait alone. -/
def Arrives (s : State) (tokens : List Token) (phase : Phase) : Prop :=
  ∃ last, advance? s tokens = some last ∧ last.phase = phase ∧ last.level = s.level ∧
    last.outer = s.outer

theorem Arrives.refl {phase : Phase} (h : s.phase = phase) : Arrives s [] phase :=
  ⟨s, rfl, h, rfl, rfl⟩

theorem Arrives.trans {a b : List Token} {first last : Phase} (h : Arrives s a first)
    (k : ∀ m : State, m.phase = first → Arrives m b last) : Arrives s (a ++ b) last := by
  obtain ⟨m, ha, hp, hl, ho⟩ := h
  obtain ⟨n, hb, hq, hm, hn⟩ := k m hp
  exact ⟨n, advance?_append.2 ⟨m, ha, hb⟩, hq, hm.trans hl, hn.trans ho⟩

theorem Arrives.cons {rest : List Token} {start first last : Phase} (hp : s.phase = start)
    (h : start.Continues t first) (k : ∀ m : State, m.phase = first → Arrives m rest last) :
    Arrives s (t :: rest) last := by
  subst hp
  have hs : Arrives s [t] first := ⟨s.moved first, advance?_single (.continues h), rfl, rfl, rfl⟩
  exact hs.trans k

theorem Arrives.single {start last : Phase} (hp : s.phase = start) (h : start.Continues t last) :
    Arrives s [t] last :=
  .cons hp h fun _ hm => .refl hm

theorem items_arrive {op : Operator} (items : Items) (h : s.phase = .firstItem field op) :
    Arrives s items.tokens (.listClosing field op items.values.reverse) := by
  induction items with
  | one item => exact .single h (.firstItem item.value_eq)
  | more front comma last ih =>
      rw [Items.values, List.reverse_append]
      apply ih.trans
      intro m hm
      refine .cons hm (.comma comma.2) fun n hn => ?_
      exact .single hn (.nextItem last.value_eq)

theorem listing_arrives {op : Operator} (listing : Listing)
    (h : s.phase = .listOpening field op) :
    Arrives s listing.tokens (.complete (.comparison field op (.list listing.values))) := by
  cases listing with
  | empty opening closing =>
      refine .cons h (.opening opening.2) fun m hm => ?_
      exact .single hm (.noItem closing.2)
  | filled opening items closing =>
      refine .cons h (.opening opening.2) fun m hm => ?_
      apply (items_arrive items hm).trans
      intro n hn
      rw [Listing.values, ← List.reverse_reverse items.values]
      exact .single hn (.closing closing.2)

theorem test_arrives (test : Test) (h : s.phase = .operator field) :
    Arrives s test.tokens (.complete (.comparison field test.op test.value)) := by
  cases test with
  | isNull is null =>
      refine .cons h (.isWord is.2) fun m hm => ?_
      exact .single hm (.null null.2)
  | isNotNull is not null =>
      refine .cons h (.isWord is.2) fun m hm => ?_
      refine .cons hm (.isNot not.2) fun n hn => ?_
      exact .single hn (.notNull null.2)
  | within word listing =>
      exact .cons h (.within word.2) fun m hm => listing_arrives listing hm
  | notWithin not word listing =>
      refine .cons h (.fieldNot not.2) fun m hm => ?_
      exact .cons hm (.notWithin word.2) fun n hn => listing_arrives listing hn
  | between word low and high =>
      refine .cons h (.between word.2) fun m hm => ?_
      refine .cons hm (.lowBound low.value_eq) fun n hn => ?_
      refine .cons hn (.rangeAnd and.2) fun k hk => ?_
      exact .single hk (.highBound high.value_eq)
  | binary sign value =>
      refine .cons h (.sign sign.op_eq) fun m hm => ?_
      exact .single hm (.literal value.value_eq)

/-! ## Chains of operands -/

theorem negate_not (n : Nat) (e : Expr) : Level.negate n (.not e) = .not (Level.negate n e) := by
  induction n with
  | zero => rfl
  | succ n ih => rw [Level.negate, Level.negate, ih]

theorem conjoin_succ (level : Level) (e : Expr) :
    Level.conjoin { level with negations := level.negations + 1 } e = level.conjoin (.not e) := by
  rw [Level.conjoin, Level.conjoin, negate_not]
  rfl

/-- A level in which a derivation can begin: an operand can go anywhere, a conjunction only
where none has begun, and a disjunction only in a level with nothing in it. -/
def Opens : Symbol → Level → Prop
  | .disjunction, level => level = {}
  | .conjunction, level => level.conjunct = none ∧ level.negations = 0
  | _, _ => True

/-- The level `last` with `operand` at its end amounts to the level `first` with `tree` at
its end. -/
def Closes : Symbol → Level → Expr → Level → Expr → Prop
  | .disjunction, _, tree, last, operand => last.whole operand = tree
  | _, first, tree, last, operand =>
      last.disjunct = first.disjunct ∧ last.conjoin operand = first.conjoin tree

theorem conjoin_of_opens (level : Level) (h : Opens .conjunction level) (e : Expr) :
    level.conjoin e = e := by
  rw [Level.conjoin, h.1, h.2]
  rfl

/-- From a state that is ready, the tokens of a derivation are all taken, and they leave
its query behind as an operand at the end of the level. -/
theorem derivation_read {symbol : Symbol} (d : Derivation symbol) :
    ∀ (s : State) (level : Level), Ready s level → Opens symbol level →
      ∃ last operand, advance? s d.tokens = some last ∧ last.phase = .complete operand ∧
        last.outer = s.outer ∧ Closes symbol level d.tree last.level operand := by
  induction d with
  | disjunct only ih =>
      intro s level hr ho
      obtain rfl : level = {} := ho
      obtain ⟨last, operand, ha, hp, hout, hd, hc⟩ := ih s {} hr ⟨rfl, rfl⟩
      refine ⟨last, operand, ha, hp, hout, ?_⟩
      rw [Closes, Level.whole, hd]
      exact hc.trans (conjoin_of_opens {} ⟨rfl, rfl⟩ only.tree)
  | or front word last ihf ihl =>
      intro s level hr ho
      obtain ⟨m, e, ha, hp, hout, hw⟩ := ihf s level hr ho
      obtain ⟨n, operand, hb, hq, hn, hd, hc⟩ :=
        ihl { m.moved .operand with level := m.level.afterOr e } (m.level.afterOr e)
          (Or.inl ⟨rfl, rfl⟩) ⟨rfl, rfl⟩
      have hl := hc.trans (conjoin_of_opens (m.level.afterOr e) ⟨rfl, rfl⟩ last.tree)
      refine ⟨n, operand, advance?_append.2 ⟨m, ha, advance?_cons.2 ⟨_, .or hp word.2, hb⟩⟩, hq,
        hn.trans hout, ?_⟩
      rw [Closes, Level.whole, hd, hl]
      exact congrArg (Expr.or · last.tree) hw
  | conjunct only ih =>
      intro s level hr ho
      exact ih s level hr trivial
  | and front word last ihf ihl =>
      intro s level hr ho
      obtain ⟨m, e, ha, hp, hout, hd, hc⟩ := ihf s level hr ho
      obtain ⟨n, operand, hb, hq, hn, hd', hc'⟩ :=
        ihl { m.moved .operand with level := m.level.afterAnd e } (m.level.afterAnd e)
          (Or.inl ⟨rfl, rfl⟩) trivial
      refine ⟨n, operand, advance?_append.2 ⟨m, ha, advance?_cons.2 ⟨_, .and hp word.2, hb⟩⟩, hq,
        hn.trans hout, hd'.trans hd, ?_⟩
      rw [conjoin_of_opens level ho] at hc
      rw [hc', conjoin_of_opens level ho]
      exact congrArg (Expr.and · last.tree) hc
  | not word operand ih =>
      intro s level hr _
      obtain ⟨last, e, ha, hp, hout, hd, hc⟩ :=
        ih ({ s with level }.moved (.negation word.1))
          { level with negations := level.negations + 1 } (Or.inr ⟨word.1, rfl, rfl⟩) trivial
      exact ⟨last, e, advance?_cons.2 ⟨_, .negation hr word.2, ha⟩, hp, hout, hd,
        hc.trans (conjoin_succ level operand.tree)⟩
  | bare only ih =>
      intro s level hr _
      exact ih s level hr trivial
  | group opening inner closing ih =>
      intro s level hr _
      obtain ⟨m, e, ha, hp, hout, hw⟩ := ih { s with level }.opened {} (Or.inl ⟨rfl, rfl⟩) rfl
      let closed : State :=
        { m.moved (.complete (.group (m.level.whole e))) with level, outer := s.outer }
      have hc : Moves m closing.1 closed := .closing hp closing.2 hout
      refine ⟨closed, .group inner.tree, ?_, ?_, rfl, rfl, rfl⟩
      · exact advance?_append.2
          ⟨m, advance?_cons.2 ⟨_, .opening hr opening.2, ha⟩, advance?_single hc⟩
      · exact congrArg (fun tree => Phase.complete (.group tree)) hw
  | comparison field test =>
      intro s level hr _
      obtain ⟨last, ha, hp, hl, ho⟩ := test_arrives test (s := { s with level }.named field.1) rfl
      refine ⟨last, _, advance?_cons.2 ⟨_, .field hr field.2, ha⟩, hp, ho, ?_, ?_⟩
      · rw [hl]; rfl
      · rw [hl]; rfl

end TaskQuery.Query.Parse
