import Mathlib.Data.List.Forall2
import TaskQuery.Proofs.Query.FieldCheck
/-!
# What only diagnostics show

The place of a token, and the text of one that is neither a literal nor a field, show in
messages and nowhere else. Two lists of tokens that differ in no more than that are read as
the same tree, and the check of their fields finds as many errors.
-/

namespace TaskQuery.Query

/-- Tokens that count for the same: they are of one kind, and equal as literals and as
fields. -/
structure Token.Alike (t u : Token) : Prop where
  kind : t.kind = u.kind
  literal : Literal.ofToken t = Literal.ofToken u
  field : t.kind = .identifier → Text.lower t.text = Text.lower u.text

variable {t u : Token} {ts us : List Token}

namespace Parse

def Phase.silent : Phase → Phase
  | .negation _ => .negation (.atEnd 0)
  | .fieldNot field _ => .fieldNot field (.atEnd 0)
  | phase => phase

def State.silent (s : State) : State :=
  { s with phase := s.phase.silent }

def Outcome.silent (o : Outcome) : Outcome :=
  { o with error := o.error.map fun _ => .emptyQuery }

theorem Outcome.silent_iff {o o' : Outcome} : o.silent = o'.silent ↔
    o.tree = o'.tree ∧ o.fields = o'.fields ∧ o.position = o'.position ∧
      o.error.isSome = o'.error.isSome := by
  obtain ⟨tree, fields, error, position⟩ := o
  obtain ⟨tree', fields', error', position'⟩ := o'
  cases error <;> cases error' <;> simp [Outcome.silent, and_comm]

def Step.silent : Step → Step
  | .next s => .next s.silent
  | .stop o => .stop o.silent

variable {s s' : State}

/-- The token that is kept for a message has no other use. -/
theorem step_silent_state (s : State) (t : Token) :
    (step s.silent t).silent = (step s t).silent := by
  obtain ⟨phase, level, outer, fields, position⟩ := s
  cases phase with
  | negation word =>
      unfold State.silent Phase.silent step
      dsimp only
      split
      · rfl
      · rfl
  | fieldNot field word =>
      unfold State.silent Phase.silent step
      dsimp only
      split
      · rfl
      · rfl
  | _ => rfl

theorem takeLiteral_silent (h : t.Alike u) (s : State) (phase : Value → Phase) :
    (s.takeLiteral t phase).silent = (s.takeLiteral u phase).silent := by
  unfold State.takeLiteral
  rw [h.literal]
  cases Literal.ofToken u <;> rfl

theorem takeOperand_silent (h : t.Alike u) (s : State) :
    (s.takeOperand t).silent = (s.takeOperand u).silent := by
  unfold State.takeOperand
  rw [← h.kind]
  cases hk : t.kind with
  | identifier =>
      dsimp only
      unfold State.takeField
      rw [h.field hk]
  | _ => rfl

theorem takeOperator_silent (h : t.Alike u) (s : State) (field : String) :
    (s.takeOperator field t).silent = (s.takeOperator field u).silent := by
  unfold State.takeOperator
  rw [← h.kind]
  cases t.kind <;> rfl

theorem takeConnective_silent (h : t.Alike u) (s : State) (operand : Expr) :
    (s.takeConnective operand t).silent = (s.takeConnective operand u).silent := by
  unfold State.takeConnective
  rw [← h.kind]
  cases t.kind <;> cases s.outer <;> rfl

theorem step_silent_token (h : t.Alike u) (s : State) :
    (step s t).silent = (step s u).silent := by
  have hkind := h.kind
  have hliteral := takeLiteral_silent h s
  unfold step
  rw [← hkind]
  cases s.phase with
  | operand => exact takeOperand_silent h s
  | negation word =>
      dsimp only
      split
      · rfl
      · exact takeOperand_silent h _
  | operator field => exact takeOperator_silent h s field
  | literal field op => exact hliteral _
  | lowBound field => exact hliteral _
  | highBound field low => exact hliteral _
  | nextItem field op items => exact hliteral _
  | firstItem field op =>
      dsimp only
      split
      · rfl
      · exact hliteral _
  | complete operand => exact takeConnective_silent h s operand
  | _ =>
      dsimp only
      repeat' split
      all_goals rfl

theorem step_silent (hs : s.silent = s'.silent) (h : t.Alike u) :
    (step s t).silent = (step s' u).silent :=
  calc
    (step s t).silent = (step s.silent t).silent := (step_silent_state s t).symm
    _ = (step s'.silent t).silent := by rw [hs]
    _ = (step s' t).silent := step_silent_state s' t
    _ = (step s' u).silent := step_silent_token h s'

theorem run_silent (h : List.Forall₂ Token.Alike ts us) (hs : s.silent = s'.silent) :
    (run s ts).silent = (run s' us).silent := by
  induction h generalizing s s' with
  | nil =>
      have hfields := congrArg State.fields hs
      have hposition := congrArg State.position hs
      simp only [State.silent] at hfields hposition
      simp only [run, Outcome.silent, hfields, hposition]
  | @cons t u ts us htoken hrest ih =>
      have hstep := step_silent hs htoken
      unfold run
      cases ht : step s t with
      | next after =>
          cases hu : step s' u with
          | next after' =>
              rw [ht, hu] at hstep
              exact ih (Step.next.inj hstep)
          | stop outcome =>
              rw [ht, hu] at hstep
              cases hstep
      | stop outcome =>
          cases hu : step s' u with
          | next after' =>
              rw [ht, hu] at hstep
              cases hstep
          | stop outcome' =>
              rw [ht, hu] at hstep
              exact Step.stop.inj hstep

end Parse

open Parse

theorem alike_getLastD (h : List.Forall₂ Token.Alike ts us) (ht : t.Alike u) :
    (ts.getLastD t).Alike (us.getLastD u) := by
  induction h generalizing t u with
  | nil => exact ht
  | cons htoken hrest ih =>
      rw [List.getLastD_cons, List.getLastD_cons]
      exact ih htoken

/-- Tokens that count for the same are read alike, but for the text of an error. -/
theorem parseTokens_silent (h : List.Forall₂ Token.Alike ts us) :
    (parseTokens ts).silent = (parseTokens us).silent := by
  have hlength := h.length_eq
  cases h with
  | nil => rfl
  | @cons t u ts us htoken hrest =>
      by_cases hk : t.kind = .endOfInput
      · unfold parseTokens
        dsimp only
        rw [if_pos hk, if_pos (htoken.kind ▸ hk)]
      · have hpadding : List.Forall₂ Token.Alike
            (List.replicate ((t :: ts).length + 2) (ts.getLastD t))
            (List.replicate ((u :: us).length + 2) (us.getLastD u)) := by
          rw [hlength, List.forall₂_iff_get]
          refine ⟨by simp, fun i h₁ h₂ => ?_⟩
          simpa using alike_getLastD hrest htoken
        rw [parseTokens_eq_run hk, parseTokens_eq_run (htoken.kind ▸ hk)]
        exact run_silent (List.rel_append (.cons htoken hrest) hpadding) rfl

/-! ## The check of the fields -/

open Grammar

theorem fieldNames_alike (h : List.Forall₂ Token.Alike ts us) :
    fieldNames ts = fieldNames us := by
  induction h with
  | nil => rfl
  | @cons t u ts us htoken hrest ih =>
      by_cases hk : t.kind = .identifier
      · rw [fieldNames_identifier hk, fieldNames_identifier (htoken.kind ▸ hk), htoken.field hk, ih]
      · rw [fieldNames_other hk, fieldNames_other (htoken.kind ▸ hk), ih]

theorem head?_alike (h : List.Forall₂ Token.Alike ts us) :
    ts.head?.map Token.kind = us.head?.map Token.kind := by
  cases h with
  | nil => rfl
  | cons htoken hrest => exact congrArg some htoken.kind

theorem errorAt?_alike (v : Vocabulary) (h : t.Alike u) {following following' : Option Token}
    (hnext : following.map Token.kind = following'.map Token.kind) :
    (v.errorAt? t following).isSome = (v.errorAt? u following').isSome := by
  unfold Vocabulary.errorAt?
  rw [← h.kind]
  cases hk : t.kind with
  | identifier =>
      dsimp only
      rw [h.field hk]
      split <;> rfl
  | is =>
      cases following with
      | none =>
          cases following' with
          | none => rfl
          | some next => cases hnext
      | some next =>
          cases following' with
          | none => cases hnext
          | some next' =>
              have hkind : next.kind = next'.kind := Option.some.inj hnext
              dsimp only
              rw [hkind]
              split <;> rfl
  | _ => rfl

theorem errors_length_alike (v : Vocabulary) (h : List.Forall₂ Token.Alike ts us) :
    (v.errors ts).length = (v.errors us).length := by
  induction h with
  | nil => rfl
  | @cons t u ts us htoken hrest ih =>
      have hone := errorAt?_alike v htoken (head?_alike hrest)
      have hlength : ∀ e : Option FieldError, e.toList.length = if e.isSome then 1 else 0 := by
        intro e
        cases e <;> rfl
      unfold Vocabulary.errors
      rw [List.length_append, List.length_append, hlength, hlength, hone, ih]

end TaskQuery.Query

def TaskQuery.Server.Compilation.silent (c : Server.Compilation) : Server.Compilation :=
  { c with errors := c.errors.map fun _ => "" }

namespace TaskQuery.Selector

open Query Server

/-- Readings that differ in nothing but the texts of their errors. -/
structure Parsed.Alike (p q : Parsed) : Prop where
  tree : p.tree = q.tree
  fields : p.fields = q.fields
  errors : p.errors.length = q.errors.length

variable {text other : String} {ts us : List Token}

theorem ofOutcome_alike {o o' : Parse.Outcome} (h : o.silent = o'.silent) :
    (ofOutcome o).Alike (ofOutcome o') := by
  obtain ⟨htree, hfields, -, herror⟩ := Parse.Outcome.silent_iff.1 h
  have hlength : ∀ o : Parse.Outcome,
      (ofOutcome o).errors.length = if o.error.isSome then 1 else 0 := by
    rintro ⟨tree, fields, error, position⟩
    cases error <;> rfl
  exact ⟨htree, hfields, by rw [hlength, hlength, herror]⟩

theorem parse_alike (s : Settings) (htext : tokenize text = .ok ts)
    (hother : tokenize other = .ok us) (h : List.Forall₂ Token.Alike ts us) :
    (parse s text).Alike (parse s other) := by
  have herrors := errors_length_alike s.vocabulary h
  by_cases hnone : s.vocabulary.errors ts = []
  · have hnone' : s.vocabulary.errors us = [] := by
      rw [hnone, List.length_nil] at herrors
      exact List.length_eq_zero_iff.1 herrors.symm
    rw [parse_of_no_errors s htext hnone, parse_of_no_errors s hother hnone']
    exact ofOutcome_alike (parseTokens_silent h)
  · have hsome : s.vocabulary.errors us ≠ [] := by
      intro hnone'
      rw [hnone', List.length_nil] at herrors
      exact hnone (List.length_eq_zero_iff.1 herrors)
    rw [parse_of_errors s htext hnone, parse_of_errors s hother hsome]
    refine ⟨rfl, congrArg distinct (fieldNames_alike h), ?_⟩
    rw [List.length_map, List.length_map, herrors]

theorem silent_failure (errors : List QueryError) :
    Compilation.silent { errors := errors.map QueryError.message } =
      { errors := List.replicate errors.length "" } := by
  unfold Compilation.silent
  dsimp only
  rw [List.map_map, ← List.map_const']
  rfl

theorem compile_alike (s : Settings) (h : (parse s text).Alike (parse s other)) :
    (compile s text).map Compilation.silent = (compile s other).map Compilation.silent := by
  have hlength := h.errors
  by_cases hnone : (parse s text).errors = []
  · have hnone' : (parse s other).errors = [] := by
      rw [hnone, List.length_nil] at hlength
      exact List.length_eq_zero_iff.1 hlength.symm
    rw [compile_of_no_errors s hnone, compile_of_no_errors s hnone', h.tree]
  · have hsome : (parse s other).errors ≠ [] := by
      intro hnone'
      rw [hnone', List.length_nil] at hlength
      exact hnone (List.length_eq_zero_iff.1 hlength)
    rw [compile_of_errors s hnone, compile_of_errors s hsome]
    apply congrArg Except.ok
    rw [silent_failure, silent_failure, hlength]

end TaskQuery.Selector
