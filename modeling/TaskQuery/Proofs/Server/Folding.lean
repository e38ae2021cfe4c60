import TaskQuery.Proofs.Server.Conjuncts
import TaskQuery.Proofs.Server.Requests
/-!
# The walk as a fold

The walk over a tree does what one pass over the conjuncts does, from left to right. Each
conjunct enters one value in the filter or adds one reason, so the verdict is whether there
are reasons, and it does not matter how `AND` and the groups put the conjuncts together.
-/

namespace TaskQuery

/-- Trees without a missing child. The left side of a negation is none. -/
def Query.Expr.Complete : Query.Expr → Prop
  | .absent => False
  | .comparison _ _ _ => True
  | .logical .not _ operand => operand.Complete
  | .logical _ left right => left.Complete ∧ right.Complete
  | .group inner => inner.Complete

namespace Server

open Query (Expr Operator evaluate selects)

variable {c : Capabilities} {query other part : Expr} {w : Walk} {parts : List Expr}

/-- The conjuncts of a complete tree are comparisons, disjunctions and negations. -/
theorem conjunct_cases (complete : query.Complete) (hpart : part ∈ conjuncts query) :
    (∃ field op value, part = .comparison field op value) ∨
      (∃ left right, part = .logical .or left right) ∨
        ∃ left operand, part = .logical .not left operand := by
  induction query with
  | absent => exact complete.elim
  | comparison field op value => exact Or.inl ⟨field, op, value, List.mem_singleton.1 hpart⟩
  | logical connective left right ihl ihr =>
      cases connective with
      | and => exact (List.mem_append.1 hpart).elim (ihl complete.1) (ihr complete.2)
      | or => exact Or.inr (Or.inl ⟨left, right, List.mem_singleton.1 hpart⟩)
      | not => exact Or.inr (Or.inr ⟨left, right, List.mem_singleton.1 hpart⟩)
  | group inner ih => exact ih complete hpart

namespace Walk

/-- Goes past one conjunct. Nothing inside of a disjunction or a negation counts. -/
def absorb (c : Capabilities) (w : Walk) : Expr → Walk
  | .comparison field op value =>
      match requestOf c field op value with
      | .error reason => w.note reason
      | .ok (key, sent) =>
          if w.admits c key sent then w.send c key sent else w.note (.conflict field)
  | .logical .or _ _ => w.note .disjunction
  | .logical .not _ _ => w.note .negation
  | _ => w

theorem visit_comparison_cases (w : Walk) (field : String) (op : Operator) (value : Value) :
    (∃ key sent, w.admits c key sent = true ∧
      w.absorb c (.comparison field op value) = w.send c key sent ∧
      w.visitComparison c field op value = (true, w.send c key sent)) ∨
    ∃ reason, w.absorb c (.comparison field op value) = w.note reason ∧
      w.visitComparison c field op value = (false, w.note reason) := by
  rw [visitComparison_eq, absorb]
  cases requestOf c field op value with
  | error reason => exact Or.inr ⟨reason, rfl, rfl⟩
  | ok request =>
      obtain ⟨key, sent⟩ := request
      cases hadmits : w.admits c key sent with
      | true => exact Or.inl ⟨key, sent, hadmits, by simp [hadmits], by simp [hadmits]⟩
      | false => exact Or.inr ⟨.conflict field, by simp [hadmits], by simp [hadmits]⟩

/-- The walk over a tree leaves what one pass over its conjuncts leaves. -/
theorem visit_snd (w : Walk) (query : Expr) :
    (w.visit c query).2 = (conjuncts query).foldl (absorb c) w := by
  induction query generalizing w with
  | absent => rfl
  | comparison field op value =>
      obtain ⟨key, sent, -, habsorb, hvisit⟩ | ⟨reason, habsorb, hvisit⟩ :=
        w.visit_comparison_cases (c := c) field op value
      · rw [visit, hvisit, conjuncts, List.foldl_cons, List.foldl_nil, habsorb]
      · rw [visit, hvisit, conjuncts, List.foldl_cons, List.foldl_nil, habsorb]
  | logical connective left right ihl ihr =>
      cases connective with
      | and => rw [conjuncts, List.foldl_append, ← ihl, ← ihr, visit]
      | or => rfl
      | not => rfl
  | group inner ih => exact ih w

theorem absorb_cases (complete : query.Complete) (hpart : part ∈ conjuncts query) (w : Walk) :
    (∃ key sent, w.admits c key sent = true ∧ w.absorb c part = w.send c key sent) ∨
      ∃ reason, w.absorb c part = w.note reason := by
  obtain ⟨field, op, value, rfl⟩ | ⟨left, right, rfl⟩ | ⟨left, operand, rfl⟩ :=
    conjunct_cases complete hpart
  · obtain ⟨key, sent, hadmits, habsorb, -⟩ | ⟨reason, habsorb, -⟩ :=
      w.visit_comparison_cases (c := c) field op value
    · exact Or.inl ⟨key, sent, hadmits, habsorb⟩
    · exact Or.inr ⟨reason, habsorb⟩
  · exact Or.inr ⟨.disjunction, rfl⟩
  · exact Or.inr ⟨.negation, rfl⟩

/-- No reason is taken back, and the verdict on a tree is that it added none. -/
theorem visit_fst_iff (complete : query.Complete) (w : Walk) :
    w.reasons.length ≤ (w.visit c query).2.reasons.length ∧
      ((w.visit c query).1 = true ↔
        (w.visit c query).2.reasons.length = w.reasons.length) := by
  induction query generalizing w with
  | absent => exact complete.elim
  | comparison field op value =>
      obtain ⟨key, sent, -, -, hvisit⟩ | ⟨reason, -, hvisit⟩ :=
        w.visit_comparison_cases (c := c) field op value
      · simp [visit, hvisit]
      · simp [visit, hvisit]
  | logical connective left right ihl ihr =>
      cases connective with
      | and =>
          -- Both sides are visited, so the right one starts from what the left one added:
          -- the sum stands still only if both do.
          obtain ⟨hl, hleft⟩ := ihl complete.1 w
          obtain ⟨hr, hright⟩ := ihr complete.2 (w.visit c left).2
          simp only [visit, Bool.and_eq_true, hleft, hright]
          omega
      | or => simp [visit, refuse]
      | not => simp [visit, refuse]
  | group inner ih => exact ih complete w

end Walk

theorem isEmptyQuery_of_complete (complete : query.Complete) : isEmptyQuery query = false := by
  cases query with
  | group inner =>
      cases inner with
      | absent => exact complete.elim
      | _ => rfl
  | _ => rfl

/-- One pass over the conjuncts of a tree, from left to right. -/
def absorbAll (c : Capabilities) (query : Expr) : Walk :=
  (conjuncts query).foldl (Walk.absorb c) .start

/-- What a complete tree compiles to is the result of the pass over its conjuncts, and the
verdict is whether that added a reason. -/
theorem compile_of_complete (c : Capabilities) (complete : query.Complete) :
    (Compiler.fresh c).compile query =
      ((absorbAll c query).result query (absorbAll c query).reasons.isEmpty,
        { capabilities := c, walk := absorbAll c query }) := by
  have hwalk : (Walk.start.visit c query).2 = absorbAll c query := Walk.visit_snd .start query
  have hiff := (Walk.visit_fst_iff (c := c) complete .start).2
  rw [hwalk, show Walk.start.reasons.length = 0 from rfl, List.length_eq_zero_iff,
    ← List.isEmpty_iff] at hiff
  have hverdict : (Walk.start.visit c query).1 = (absorbAll c query).reasons.isEmpty :=
    Bool.eq_iff_iff.2 hiff
  rw [Compiler.compile_of_not_empty _ (isEmptyQuery_of_complete complete)]
  change ((Walk.start.visit c query).2.result query (Walk.start.visit c query).1,
    ({ capabilities := c, walk := (Walk.start.visit c query).2 } : Compiler)) = _
  rw [hwalk, hverdict]

/-! ## Brackets -/

/-- Trees that differ in the groups around their parts, and in how `AND` associates. -/
inductive Rebracketed : Expr → Expr → Prop where
  | refl (query : Expr) : Rebracketed query query
  | symm {a b : Expr} (h : Rebracketed a b) : Rebracketed b a
  | trans {a b d : Expr} (h : Rebracketed a b) (k : Rebracketed b d) : Rebracketed a d
  | group (inner : Expr) : Rebracketed (.group inner) inner
  | assoc (a b d : Expr) : Rebracketed (.and (.and a b) d) (.and a (.and b d))
  | logical {a b a' b' : Expr} (connective : Query.Connective) (left : Rebracketed a a')
      (right : Rebracketed b b') :
      Rebracketed (.logical connective a b) (.logical connective a' b')
  | inside {a b : Expr} (h : Rebracketed a b) : Rebracketed (.group a) (.group b)

namespace Rebracketed

theorem complete_iff (h : Rebracketed query other) : query.Complete ↔ other.Complete := by
  induction h with
  | refl => rfl
  | symm _ ih => exact ih.symm
  | trans _ _ ih ih' => exact ih.trans ih'
  | group inner => rfl
  | assoc a b d => simp [Expr.and, Expr.Complete, and_assoc]
  | logical connective _ _ ihl ihr => cases connective <;> simp [Expr.Complete, ihl, ihr]
  | inside _ ih => exact ih

theorem visit_eq (h : Rebracketed query other) (w : Walk) :
    w.visit c query = w.visit c other := by
  induction h generalizing w with
  | refl => rfl
  | symm _ ih => exact (ih w).symm
  | trans _ _ ih ih' => exact (ih w).trans (ih' w)
  | group inner => rfl
  | assoc a b d => simp [Expr.and, Walk.visit, Bool.and_assoc]
  | logical connective _ _ ihl ihr =>
      cases connective with
      | and => simp [Walk.visit, ihl, ihr]
      | or => rfl
      | not => rfl
  | inside _ ih => exact ih w

theorem selects_eq (h : Rebracketed query other) (record : Entries String Value) :
    selects record query = selects record other := by
  induction h with
  | refl => rfl
  | symm _ ih => exact ih.symm
  | trans _ _ ih ih' => exact ih.trans ih'
  | group inner => rfl
  | assoc a b d => simp [Expr.and, selects, Bool.and_assoc]
  | logical connective _ _ ihl ihr => cases connective <;> simp [selects, ihl, ihr]
  | inside _ ih => exact ih

theorem evaluate_eq (h : Rebracketed query other) (v : Value) :
    evaluate query v = evaluate other v := by
  cases v with
  | mapping record => exact h.selects_eq record
  | _ => rfl

end Rebracketed

/-- A complete tree compiles as its list of conjuncts does: one pass from left to right in
which each conjunct enters a value or adds one reason leaves the same filter and the same
reasons. The query goes to the server exactly if there are none and the filter can be shown in
the log; a filter that cannot is an error. Other brackets around the same parts change neither
that nor the records selected. -/
theorem compile_folds_conjuncts (c : Capabilities) (query : Expr) (complete : query.Complete) :
    (∀ part ∈ conjuncts query, ∀ w : Walk,
      (∃ key sent, w.admits c key sent = true ∧ w.absorb c part = w.send c key sent) ∨
        ∃ reason, w.absorb c part = w.note reason) ∧
    ((Compiler.fresh c).compile query).2.walk = absorbAll c query ∧
    compile c query =
      (if (absorbAll c query).reasons = [] then
        if Value.showableEntries (absorbAll c query).filter then
          { serverFilter := (absorbAll c query).filter }
        else { errors := [longIntegerError] }
      else
        { clientQuery := some query
          warnings := clientWarning :: (absorbAll c query).reasons.map Reason.message }) ∧
    ∀ other, Rebracketed query other →
      ((Compiler.fresh c).compile other).2.walk = absorbAll c query ∧
      (compile c other).serverFilter = (compile c query).serverFilter ∧
      (compile c other).requiresClient = (compile c query).requiresClient ∧
      (compile c other).warnings = (compile c query).warnings ∧
      (compile c other).errors = (compile c query).errors ∧
      ∀ v, evaluate other v = evaluate query v := by
  have hquery := compile_of_complete c complete
  refine ⟨fun part hpart w => Walk.absorb_cases complete hpart w, by rw [hquery], ?_,
    fun other h => ?_⟩
  · rw [compile, hquery]
    simp only [Walk.result, List.isEmpty_iff]
  · have hother := compile_of_complete c (h.complete_iff.1 complete)
    have hall : absorbAll c other = absorbAll c query := by
      rw [absorbAll, absorbAll, ← Walk.visit_snd, ← h.visit_eq, Walk.visit_snd]
    have hvalue := fun v => (h.evaluate_eq v).symm
    rw [compile, compile, hquery, hother, hall]
    refine ⟨rfl, ?_, ?_, ?_, ?_, hvalue⟩
    all_goals
      unfold Walk.result
      cases (absorbAll c query).reasons.isEmpty <;> rfl

/-- One comparison with an integer that has a digit too many. -/
def longStatus : Expr :=
  .comparison "status" .eq (.int (Nat.pow 10 Number.digitLimit))

/-- Without a reason against it a query need not go to the server: its filter may hold an
integer of too many digits. -/
theorem longStatus_not_sent :
    ¬∀ (c : Capabilities) (query : Expr), query.Complete → (absorbAll c query).reasons = [] →
      (compile c query).errors = [] ∧
        (compile c query).serverFilter = (absorbAll c query).filter := by
  intro h
  obtain ⟨herrors, -⟩ := h .standard longStatus trivial (by decide +kernel)
  exact absurd herrors (by decide +kernel)

def contested : Expr :=
  .and (.comparison "status" .eq (.text "open"))
    (.and (.comparison "status" .eq (.text "done"))
      (.or (.comparison "tags" .eq (.text "home")) (.comparison "size" .gt (.int 3))))

def contestedFirst : Expr :=
  .and
    (.group (.and (.comparison "status" .eq (.text "open"))
      (.comparison "status" .eq (.text "done"))))
    (.or (.comparison "tags" .eq (.text "home")) (.comparison "size" .gt (.int 3)))

theorem contested_rebracketed : Rebracketed contested contestedFirst := by
  refine .trans (.symm (.assoc _ _ _)) ?_
  exact .logical .and (.symm (.group _)) (.refl _)

theorem contested_folds :
    contested.Complete ∧ Rebracketed contested contestedFirst ∧
      ((Compiler.fresh .standard).compile contestedFirst).2.walk =
        { filter := [("status", .text "open")]
          reasons := [.conflict "status", .disjunction] } := by
  have complete : contested.Complete := ⟨trivial, trivial, trivial, trivial⟩
  obtain ⟨-, -, -, hbrackets⟩ := compile_folds_conjuncts .standard contested complete
  have hlast := (hbrackets contestedFirst contested_rebracketed).1
  refine ⟨complete, contested_rebracketed, hlast.trans ?_⟩
  rfl

end Server

end TaskQuery
