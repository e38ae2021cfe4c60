import TaskQuery.Proofs.Entries
import TaskQuery.Proofs.Server.Conjuncts
import TaskQuery.Proofs.Server.Requests
import TaskQuery.Proofs.Value.Showable
/-!
# What the server filter holds

As long as no part of a query has been refused, each comparison stands in the filter under
its parameter, with a value alike to its own, and nothing else stands there.
-/

namespace TaskQuery.Server

open Query (Expr Operator evaluate selects)
open Value (Alike)

variable {c : Capabilities} {field key : String} {op : Operator} {v value : Value}
  {part : Expr} {w after last : Walk}

def Capabilities.Sends (c : Capabilities) (field : String) (op : Operator) (key : String) :
    Prop :=
  isClientOperator op = false ∧ c.parameter? field op = some key

/-- The value that the server compares with, given the one sent under a parameter. -/
def received (c : Capabilities) (key : String) (v : Value) : Value :=
  if c.takesList key then
    match v with
    | .list [item] => item
    | other => other
  else v

theorem received_sentValue (c : Capabilities) (key : String) (v : Value) :
    received c key (Walk.sentValue c key v) = v := by
  unfold received Walk.sentValue
  split <;> rfl

theorem sentValue_inj {w : Value}
    (h : Walk.sentValue c key v = Walk.sentValue c key w) : v = w := by
  rw [← received_sentValue c key v, h, received_sentValue]

theorem same_sentValue (c : Capabilities) (key : String) (v w : Value) :
    (Walk.sentValue c key v).same (Walk.sentValue c key w) = v.same w := by
  unfold Walk.sentValue
  split
  · simp [Value.same, Value.sameItems]
  · rfl

/-! ## One part -/

/-- A comparison enters the filter: nothing, or an equal value, stands under its
parameter. -/
inductive Enters (c : Capabilities) (w : Walk) : Expr → Walk → Prop where
  | comparison {field key : String} {op : Operator} {value : Value}
      (sends : c.Sends field op key)
      (free : ∀ earlier, w.filter.get? key = some earlier →
        earlier.same (Walk.sentValue c key value) = true) :
      Enters c w (.comparison field op value)
        { w with filter := w.filter.put key (Walk.sentValue c key value) }

theorem enters_of_visitComparison
    (h : w.visitComparison c field op value = (true, after)) :
    Enters c w (.comparison field op value) after := by
  rw [Walk.visitComparison_eq] at h
  have hasked := asked_requestOf c field op value
  generalize requestOf c field op value = request at h hasked
  cases hasked with
  | request supported server parameter given =>
      dsimp only at h
      split at h
      · rename_i hadmits
        obtain ⟨-, rfl⟩ := Prod.mk.inj h
        exact .comparison ⟨server, parameter⟩ ((Walk.admits_iff_free w _ value).1 hadmits)
      · exact absurd h (by simp)
  | _ => exact absurd h (by simp)

theorem enters_of_visit {query : Expr} (hpart : part ∈ conjuncts query)
    (h : w.visit c part = (true, after)) : Enters c w part after := by
  have habsent : w.visit c .absent ≠ (true, after) := by simp [Walk.visit]
  have hor : ∀ left right, w.visit c (.logical .or left right) ≠ (true, after) := by
    simp [Walk.visit, Walk.refuse]
  have hnot : ∀ left right, w.visit c (.logical .not left right) ≠ (true, after) := by
    simp [Walk.visit, Walk.refuse]
  induction query with
  | absent => exact absurd (List.mem_singleton.1 hpart ▸ h) habsent
  | comparison field op value =>
      obtain rfl := List.mem_singleton.1 hpart
      exact enters_of_visitComparison h
  | logical connective left right ihl ihr =>
      cases connective with
      | and => exact (List.mem_append.1 hpart).elim ihl ihr
      | or => exact absurd (List.mem_singleton.1 hpart ▸ h) (hor left right)
      | not => exact absurd (List.mem_singleton.1 hpart ▸ h) (hnot left right)
  | group inner ih => exact ih hpart

/-! ## Where entries come from -/

theorem mem_filter_visitComparison {entry : String × Value}
    (h : entry ∈ (w.visitComparison c field op value).2.filter) :
    entry ∈ w.filter ∨ c.Sends field op entry.1 ∧
      entry.2 = Walk.sentValue c entry.1 value := by
  rw [Walk.visitComparison_eq] at h
  have hasked := asked_requestOf c field op value
  generalize requestOf c field op value = request at h hasked
  cases hasked with
  | request supported server parameter given =>
      dsimp only at h
      split at h
      · rcases Entries.mem_put h with hold | rfl
        · exact .inl hold
        · exact .inr ⟨⟨server, parameter⟩, rfl⟩
      · exact .inl h
  | _ => exact .inl h

/-- Whatever the verdict on a tree is, each entry that the walk over it adds comes from a
comparison among its conjuncts. -/
theorem mem_filter_visit {query : Expr} {entry : String × Value}
    (h : entry ∈ (w.visit c query).2.filter) :
    entry ∈ w.filter ∨ ∃ field op value, .comparison field op value ∈ conjuncts query ∧
      c.Sends field op entry.1 ∧ entry.2 = Walk.sentValue c entry.1 value := by
  induction query generalizing w with
  | absent => exact .inl h
  | comparison field op value =>
      exact (mem_filter_visitComparison h).imp_right fun hsent =>
        ⟨field, op, value, List.mem_singleton_self _, hsent⟩
  | logical connective left right ihl ihr =>
      cases connective with
      | and =>
          rcases ihr h with h | ⟨field, op, value, hpart, hsent⟩
          · refine (ihl h).imp_right ?_
            rintro ⟨field, op, value, hpart, hsent⟩
            exact ⟨field, op, value, List.mem_append_left _ hpart, hsent⟩
          · exact .inr ⟨field, op, value, List.mem_append_right _ hpart, hsent⟩
      | or => exact .inl h
      | not => exact .inl h
  | group inner ih => exact ih h

theorem isShowable_sentValue (c : Capabilities) (key : String) (v : Value) :
    (Walk.sentValue c key v).isShowable = v.isShowable := by
  unfold Walk.sentValue
  split
  · rw [Value.isShowable, Value.showableItems, Value.showableItems, Bool.and_true]
  · rfl

theorem showableEntries_visit {query : Expr}
    (h : ∀ field op value, .comparison field op value ∈ conjuncts query →
      isClientOperator op = false → value.isShowable = true) :
    Value.showableEntries (Walk.start.visit c query).2.filter = true := by
  rw [Value.showableEntries_iff]
  intro entry hentry
  rcases mem_filter_visit hentry with hstart | ⟨field, op, value, hpart, hsends, heq⟩
  · exact absurd hstart List.not_mem_nil
  · rw [heq, isShowable_sentValue]
    exact h field op value hpart hsends.1

/-! ## All parts -/

/-- A comparison whose value is one literal, unless the operator is never sent. -/
def IsLiteralPart : Expr → Prop
  | .comparison _ op value => isClientOperator op = false → value.IsLiteral
  | _ => True

structure Gathered (c : Capabilities) (parts : List Expr) (filter : Entries String Value) :
    Prop where
  nodup : filter.keys.Nodup
  origin : ∀ key v, filter.get? key = some v → ∃ field op value,
    .comparison field op value ∈ parts ∧ c.Sends field op key ∧
      v = Walk.sentValue c key value
  stored : ∀ part ∈ parts, ∃ field op value key sent, part = .comparison field op value ∧
    c.Sends field op key ∧ filter.get? key = some (Walk.sentValue c key sent) ∧
      Alike value sent

namespace Gathered

variable {parts rest : List Expr}

theorem empty (c : Capabilities) : Gathered c [] [] where
  nodup := List.nodup_nil
  origin := by simp
  stored := by simp

theorem isLiteral_of_stored {filter : Entries String Value} {sent : Value}
    (h : Gathered c parts filter) (hlit : ∀ part ∈ parts, IsLiteralPart part)
    (hsent : filter.get? key = some (Walk.sentValue c key sent)) : sent.IsLiteral := by
  obtain ⟨field, op, value, hmem, hsends, heq⟩ := h.origin key _ hsent
  rw [sentValue_inj heq]
  exact hlit _ hmem hsends.1

theorem alike_stored {filter : Entries String Value} {sent : Value} (h : Gathered c parts filter)
    (hpart : .comparison field op value ∈ parts) (hsends : c.Sends field op key)
    (hstored : filter.get? key = some (Walk.sentValue c key sent)) : Alike value sent := by
  obtain ⟨f, o, v, k, sent', heq, hsends', hstored', halike⟩ := h.stored _ hpart
  obtain ⟨rfl, rfl, rfl⟩ := Expr.comparison.inj heq
  obtain rfl := Option.some.inj (hsends'.2.symm.trans hsends.2)
  obtain rfl := sentValue_inj (Option.some.inj (hstored'.symm.trans hstored))
  exact halike

theorem step (h : Gathered c parts w.filter) (hlit : ∀ p ∈ parts, IsLiteralPart p)
    (hpart : IsLiteralPart part) (he : Enters c w part after) :
    Gathered c (parts ++ [part]) after.filter := by
  obtain @⟨field, key, op, value, hsends, hfree⟩ := he
  have hvalue : value.IsLiteral := hpart hsends.1
  refine ⟨Entries.nodup_keys_put h.nodup, ?_, ?_⟩
  · intro k v hv
    rw [Entries.get?_put] at hv
    split at hv
    · rename_i hk
      subst hk
      exact ⟨field, op, value, by simp, hsends, (Option.some.inj hv).symm⟩
    · obtain ⟨field', op', value', hmem, hrest⟩ := h.origin k v hv
      exact ⟨field', op', value', List.mem_append_left _ hmem, hrest⟩
  · intro p hp
    rcases List.mem_append.1 hp with hp | hp
    · obtain ⟨field', op', value', k, sent, rfl, hs, hstored, halike⟩ := h.stored p hp
      by_cases hk : key = k
      · subst hk
        have hsame := hfree _ hstored
        rw [same_sentValue] at hsame
        have halike' := Value.alike_of_same (h.isLiteral_of_stored hlit hstored) hvalue hsame
        refine ⟨field', op', value', key, value, rfl, hs, ?_, halike.trans halike'⟩
        rw [Entries.get?_put, if_pos rfl]
      · refine ⟨field', op', value', k, sent, rfl, hs, ?_, halike⟩
        rw [Entries.get?_put, if_neg hk, hstored]
    · obtain rfl := List.mem_singleton.1 hp
      refine ⟨field, op, value, key, value, rfl, hsends, ?_, .refl value⟩
      rw [Entries.get?_put, if_pos rfl]

theorem run {query : Expr} (h : Gathered c parts w.filter)
    (hlit : ∀ p ∈ parts ++ rest, IsLiteralPart p) (hrest : ∀ p ∈ rest, p ∈ conjuncts query)
    (hv : w.visitAll c rest = (true, last)) : Gathered c (parts ++ rest) last.filter := by
  induction rest generalizing parts w with
  | nil =>
      obtain ⟨-, rfl⟩ := Prod.mk.inj hv
      rw [List.append_nil]
      exact h
  | cons part rest ih =>
      rw [Walk.visitAll] at hv
      cases hone : w.visit c part with
      | mk ok next =>
          simp only [hone, Prod.mk.injEq, Bool.and_eq_true] at hv
          obtain ⟨⟨rfl, hall⟩, hlast⟩ := hv
          have hstep := h.step (fun p hp => hlit p (List.mem_append_left _ hp))
            (hlit part (by simp)) (enters_of_visit (hrest part (by simp)) hone)
          have hlit' : ∀ p ∈ parts ++ [part] ++ rest, IsLiteralPart p := by simpa using hlit
          have hrun := ih hstep hlit' (fun p hp => hrest p (List.mem_cons_of_mem _ hp))
            (Prod.ext hall hlast)
          simpa using hrun

end Gathered

/-- A query that goes to the server is gathered in the filter. -/
theorem gathered_of_server {query : Expr} (hlit : ∀ part ∈ conjuncts query, IsLiteralPart part)
    (hquery : isEmptyQuery query = false) (errors : (compile c query).errors = [])
    (server : (compile c query).requiresClient = false) :
    Gathered c (conjuncts query) (compile c query).serverFilter := by
  rw [compile_of_not_empty c hquery, Walk.result] at errors server ⊢
  cases hw : Walk.start.visit c query with
  | mk verdict walk =>
      rw [hw] at errors server
      dsimp only at errors server ⊢
      cases verdict with
      | false => exact absurd server (by simp [Compilation.requiresClient])
      | true =>
          rw [if_pos rfl] at errors ⊢
          split at errors
          · rename_i hshown
            rw [if_pos hshown]
            rw [Walk.visit_eq_visitAll] at hw
            have hstart : Gathered c [] Walk.start.filter := .empty c
            exact hstart.run (by simpa using hlit) (fun _ hp => hp) hw
          · exact absurd errors (List.cons_ne_nil _ _)

end TaskQuery.Server
