import Mathlib.Data.List.Perm.Basic
import TaskQuery.Proofs.Server.Outcome
import TaskQuery.Query.Vocabulary
/-!
# The verdict on a query

A query goes to the server if it is a conjunction of comparisons that the server can make, no
two of them send values under one request parameter that differ, and no value has an integer of
too many digits. What is sent then depends on the order of the comparisons only up to equality.
-/

namespace TaskQuery

/-- Trees of comparisons that `AND` and groups put together. -/
def Query.Expr.Conjunctive : Query.Expr → Prop
  | .comparison _ _ _ => True
  | .logical .and left right => left.Conjunctive ∧ right.Conjunctive
  | .group inner => inner.Conjunctive
  | _ => False

namespace Server

open Query (Expr Operator distinct)

variable {c : Capabilities} {query other part : Expr} {parts : List Expr}

/-- Whether the server can make a comparison, whatever else is asked of it. -/
structure Capabilities.Serves (c : Capabilities) (field : String) (op : Operator)
    (value : Value) : Prop where
  supported : c.supportsField field = true
  server : isClientOperator op = false
  known : ∃ key, c.parameter? field op = some key
  given : value ≠ .null

def request? (c : Capabilities) : Expr → Option (String × Value)
  | .comparison field op value => (c.parameter? field op).map fun key => (key, value)
  | _ => none

def requests (c : Capabilities) (query : Expr) : List (String × Value) :=
  (conjuncts query).filterMap (request? c)

/-- Whether all values for one request parameter are equal. -/
def Consistent (sent : List (String × Value)) : Prop :=
  ∀ a ∈ sent, ∀ b ∈ sent, a.1 = b.1 → a.2.same b.2 = true

def filterOf (c : Capabilities) (sent : List (String × Value)) : Entries String Value :=
  Entries.ofList (sent.map fun pair => (pair.1, Walk.sentValue c pair.1 pair.2))

theorem conjunctive_iff :
    query.Conjunctive ↔
      ∀ part ∈ conjuncts query, ∃ field op value, part = .comparison field op value := by
  induction query with
  | absent => simp [Expr.Conjunctive, conjuncts]
  | comparison field op value => simp [Expr.Conjunctive, conjuncts]
  | logical connective left right ihl ihr =>
      cases connective with
      | and => simp only [Expr.Conjunctive, conjuncts, List.forall_mem_append, ihl, ihr]
      | or => simp [Expr.Conjunctive, conjuncts]
      | not => simp [Expr.Conjunctive, conjuncts]
  | group inner ih => exact ih

theorem complete_iff :
    query.Complete ↔ ∀ part ∈ conjuncts query, part.Complete := by
  induction query with
  | absent => simp [Expr.Complete, conjuncts]
  | comparison field op value => simp [Expr.Complete, conjuncts]
  | logical connective left right ihl ihr =>
      cases connective with
      | and => simp only [Expr.Complete, conjuncts, List.forall_mem_append, ihl, ihr]
      | or => simp [Expr.Complete, conjuncts]
      | not => simp [Expr.Complete, conjuncts]
  | group inner ih => exact ih

/-! ## One comparison -/

theorem requestOf_of_serves {field key : String} {op : Operator} {value : Value}
    (h : c.Serves field op value) (hkey : c.parameter? field op = some key) :
    requestOf c field op value = .ok (key, value) := by
  have hnull : value.isNull = false := by
    cases value with
    | null => exact absurd rfl h.given
    | _ => rfl
  simp [requestOf, h.supported, h.server, hkey, hnull]

theorem serves_of_requestOf {field : String} {op : Operator} {value : Value}
    {request : String × Value} (h : requestOf c field op value = .ok request) :
    c.Serves field op value := by
  have hasked := asked_requestOf c field op value
  rw [h] at hasked
  cases hasked with
  | request supported server parameter given =>
      refine ⟨supported, server, ⟨_, parameter⟩, ?_⟩
      rintro rfl
      cases given

/-! ## All comparisons -/

variable {sent : List (String × Value)} {key : String} {value v : Value}

theorem get?_filterOf (c : Capabilities) (sent : List (String × Value)) (key : String) :
    (filterOf c sent).get? key =
      (Entries.get? sent.reverse key).map (Walk.sentValue c key) := by
  rw [filterOf, Entries.get?_ofList, ← List.map_reverse]
  induction sent.reverse with
  | nil => rfl
  | cons pair rest ih =>
      obtain ⟨k, v⟩ := pair
      rw [List.map_cons, Entries.get?, Entries.get?, ih]
      by_cases hk : k = key
      · simp [hk]
      · simp [hk]

theorem filterOf_concat (c : Capabilities) (sent : List (String × Value)) (key : String)
    (value : Value) :
    filterOf c (sent ++ [(key, value)]) =
      (filterOf c sent).put key (Walk.sentValue c key value) := by
  rw [filterOf, List.map_append, List.map_singleton, Entries.ofList_concat, ← filterOf]

theorem distinct_concat (names : List String) (name : String) :
    distinct (names ++ [name]) =
      if name ∈ distinct names then distinct names else distinct names ++ [name] := by
  simp [distinct, List.foldl_append]

theorem keys_filterOf (c : Capabilities) (sent : List (String × Value)) :
    (filterOf c sent).keys = distinct (sent.map Prod.fst) := by
  induction sent using List.reverseRecOn with
  | nil => rfl
  | append_singleton sent pair ih =>
      rw [filterOf_concat, Entries.keys_put, ih, List.map_append, List.map_singleton,
        distinct_concat]

theorem mem_keys_filterOf : key ∈ (filterOf c sent).keys ↔ key ∈ sent.map Prod.fst := by
  have hnone := Entries.get?_eq_none_iff (filterOf c sent) key
  rw [get?_filterOf, Option.map_eq_none_iff, Entries.get?_eq_none_iff, not_iff_not] at hnone
  rw [← hnone, Entries.keys, List.map_reverse, List.mem_reverse]

/-! ## One value after another -/

/-- The last value for a parameter stands in the filter, and consistent values are all equal
to it. -/
theorem admits_iff {w : Walk} (hw : w.filter = filterOf c sent) (consistent : Consistent sent)
    (regular : ∀ pair ∈ sent, pair.2.Regular) (key : String) (value : Value) :
    w.admits c key value = true ↔ ∀ pair ∈ sent, pair.1 = key → pair.2.same value = true := by
  rw [Walk.admits, hw, get?_filterOf]
  cases hlast : Entries.get? sent.reverse key with
  | none =>
      refine iff_of_true rfl fun pair hpair hkey => ?_
      have hfree := (Entries.get?_eq_none_iff _ _).1 hlast
      rw [Entries.keys, List.map_reverse, List.mem_reverse] at hfree
      exact absurd (List.mem_map.2 ⟨pair, hpair, hkey⟩) hfree
  | some last =>
      have hmem : (key, last) ∈ sent := List.mem_reverse.1 (Entries.mem_of_get? hlast)
      rw [Option.map_some]
      dsimp only
      rw [same_sentValue]
      constructor
      · intro h pair hpair hkey
        exact (regular pair hpair).trans (consistent pair hpair _ hmem hkey) h
      · intro h
        exact h _ hmem rfl

theorem consistent_concat_iff (regular : ∀ pair ∈ sent ++ [(key, value)], pair.2.Regular) :
    Consistent (sent ++ [(key, value)]) ↔
      Consistent sent ∧ ∀ pair ∈ sent, pair.1 = key → pair.2.same value = true := by
  have hlast : (key, value) ∈ sent ++ [(key, value)] := by simp
  constructor
  · intro h
    refine ⟨fun a ha b hb => ?_, fun a ha => ?_⟩
    · exact h a (List.mem_append_left _ ha) b (List.mem_append_left _ hb)
    · exact h a (List.mem_append_left _ ha) _ hlast
  · rintro ⟨h, hnew⟩ a ha b hb hab
    rcases List.mem_append.1 ha with ha' | ha'
    · rcases List.mem_append.1 hb with hb' | hb'
      · exact h a ha' b hb' hab
      · obtain rfl := List.mem_singleton.1 hb'
        exact hnew a ha' hab
    · obtain rfl := List.mem_singleton.1 ha'
      rcases List.mem_append.1 hb with hb' | hb'
      · exact (regular b hb).symm (regular _ ha) (hnew b hb' hab.symm)
      · obtain rfl := List.mem_singleton.1 hb'
        exact (regular _ hb).refl

def Served (c : Capabilities) (part : Expr) : Prop :=
  ∃ field op value, part = .comparison field op value ∧ c.Serves field op value

theorem reasons_absorb {w : Walk} (h : w.reasons ≠ []) (part : Expr) :
    (w.absorb c part).reasons ≠ [] := by
  unfold Walk.absorb
  split
  · split
    · simp
    · split
      · exact h
      · simp
  · simp
  · simp
  · exact h

theorem absorb_of_serves {field : String} {op : Operator} (w : Walk)
    (h : c.Serves field op value) (hkey : c.parameter? field op = some key) :
    w.absorb c (.comparison field op value) =
      if w.admits c key value then w.send c key value else w.note (.conflict field) := by
  rw [Walk.absorb, requestOf_of_serves h hkey]

theorem absorb_of_not_served (complete : query.Complete) (hpart : part ∈ conjuncts query)
    (h : ¬ Served c part) (w : Walk) : ∃ reason, w.absorb c part = w.note reason := by
  obtain ⟨field, op, value, rfl⟩ | ⟨left, right, rfl⟩ | ⟨left, operand, rfl⟩ :=
    conjunct_cases complete hpart
  · cases hrequest : requestOf c field op value with
    | error reason => exact ⟨reason, by rw [Walk.absorb, hrequest]⟩
    | ok request => exact absurd ⟨field, op, value, rfl, serves_of_requestOf hrequest⟩ h
  · exact ⟨.disjunction, rfl⟩
  · exact ⟨.negation, rfl⟩

theorem absorb_step {w : Walk} (hw : w.reasons = []) (hfilter : w.filter = filterOf c sent)
    (consistent : Consistent sent) (complete : query.Complete) (hpart : part ∈ conjuncts query)
    (regular : ∀ pair ∈ sent ++ (request? c part).toList, pair.2.Regular) :
    ((w.absorb c part).reasons = [] ↔
      Served c part ∧ Consistent (sent ++ (request? c part).toList)) ∧
    ((w.absorb c part).reasons = [] →
      (w.absorb c part).filter = filterOf c (sent ++ (request? c part).toList)) := by
  by_cases hserved : Served c part
  · obtain ⟨field, op, value, rfl, hserves⟩ := hserved
    obtain ⟨key, hkey⟩ := hserves.known
    have hone : (request? c (.comparison field op value)).toList = [(key, value)] := by
      simp [request?, hkey]
    rw [hone] at regular ⊢
    have hsent : ∀ pair ∈ sent, pair.2.Regular := fun pair hpair =>
      regular pair (List.mem_append_left _ hpair)
    have hadmits := admits_iff hfilter consistent hsent key value
    rw [consistent_concat_iff regular, ← hadmits, absorb_of_serves w hserves hkey]
    cases w.admits c key value with
    | true =>
        rw [if_pos rfl, Walk.reasons_send, filterOf_concat, ← hfilter]
        exact ⟨iff_of_true hw ⟨⟨field, op, value, rfl, hserves⟩, consistent, rfl⟩, fun _ => rfl⟩
    | false => simp
  · obtain ⟨reason, hnote⟩ := absorb_of_not_served complete hpart hserved w
    rw [hnote]
    simp [hserved]

/-- Nothing is refused exactly if every conjunct is served and the values sent agree; the
filter then holds what was sent. -/
theorem absorb_run (complete : query.Complete) (hparts : ∀ part ∈ parts, part ∈ conjuncts query)
    (regular : ∀ pair ∈ parts.filterMap (request? c), pair.2.Regular) :
    ((parts.foldl (Walk.absorb c) .start).reasons = [] ↔
      (∀ part ∈ parts, Served c part) ∧ Consistent (parts.filterMap (request? c))) ∧
    ((parts.foldl (Walk.absorb c) .start).reasons = [] →
      (parts.foldl (Walk.absorb c) .start).filter =
        filterOf c (parts.filterMap (request? c))) := by
  -- From the back: the step compares the last conjunct with all that were sent before it.
  induction parts using List.reverseRecOn with
  | nil => simp [Walk.start, Consistent, filterOf, Entries.ofList]
  | append_singleton parts part ih =>
      have hone : [part].filterMap (request? c) = (request? c part).toList := by
        cases h : request? c part <;> simp [h]
      rw [List.filterMap_append, hone] at regular ⊢
      rw [List.foldl_append, List.foldl_cons, List.foldl_nil]
      obtain ⟨hiff, hfilter⟩ := ih (fun p hp => hparts p (List.mem_append_left _ hp))
        (fun pair hpair => regular pair (List.mem_append_left _ hpair))
      by_cases hw : (parts.foldl (Walk.absorb c) .start).reasons = []
      · obtain ⟨hserved, hconsistent⟩ := hiff.1 hw
        obtain ⟨hstep, hput⟩ := absorb_step hw (hfilter hw) hconsistent complete
          (hparts part (by simp)) regular
        refine ⟨hstep.trans ⟨fun h => ⟨?_, h.2⟩, fun h => ⟨?_, h.2⟩⟩, hput⟩
        · rw [List.forall_mem_append]
          exact ⟨hserved, List.forall_mem_singleton.2 h.1⟩
        · exact h.1 part (by simp)
      · have hsome := reasons_absorb hw part (c := c)
        refine ⟨iff_of_false hsome fun h => hw (hiff.2 ⟨?_, ?_⟩), fun h => absurd h hsome⟩
        · exact fun p hp => h.1 p (List.mem_append_left _ hp)
        · exact fun a ha b hb =>
            h.2 a (List.mem_append_left _ ha) b (List.mem_append_left _ hb)

/-! ## Order -/

/-- In whatever order consistent values are sent, the filters are equal. -/
theorem same_filterOf {sent' : List (String × Value)} (perm : sent'.Perm sent)
    (consistent : Consistent sent) :
    Value.same (.mapping (filterOf c sent')) (.mapping (filterOf c sent)) = true := by
  have hnodup : ∀ pairs, (filterOf c pairs).keys.Nodup := fun pairs =>
    Entries.nodup_keys_ofList _
  -- The keys may come in another order, and another of the equal values may come last.
  have hkeys : (filterOf c sent').keys.Perm (filterOf c sent).keys := by
    refine (List.perm_ext_iff_of_nodup (hnodup sent') (hnodup sent)).2 fun key => ?_
    rw [mem_keys_filterOf, mem_keys_filterOf]
    exact (perm.map Prod.fst).mem_iff
  refine Value.same_mappings_iff.2 ⟨by simpa [Entries.keys] using hkeys.length_eq, ?_⟩
  intro entry hentry
  obtain ⟨key, stored⟩ := entry
  have hmine := Entries.get?_of_mem (hnodup sent') hentry
  have hkey : key ∈ (filterOf c sent).keys :=
    hkeys.mem_iff.1 (List.mem_map.2 ⟨_, hentry, rfl⟩)
  obtain ⟨other, hother⟩ := Entries.mem_keys_iff.1 hkey
  refine ⟨other, hother, ?_⟩
  rw [get?_filterOf, Option.map_eq_some_iff] at hmine hother
  obtain ⟨v, hv, rfl⟩ := hmine
  obtain ⟨w, hw, rfl⟩ := hother
  have hvmem : (key, v) ∈ sent :=
    perm.mem_iff.1 (List.mem_reverse.1 (Entries.mem_of_get? hv))
  have hwmem : (key, w) ∈ sent := List.mem_reverse.1 (Entries.mem_of_get? hw)
  dsimp only
  rw [same_sentValue]
  exact consistent _ hvmem _ hwmem rfl

theorem mem_requests {pair : String × Value} (h : pair ∈ requests c query) :
    ∃ field op, .comparison field op pair.2 ∈ conjuncts query := by
  obtain ⟨part, hpart, hrequest⟩ := List.mem_filterMap.1 h
  cases part with
  | comparison field op value =>
      obtain ⟨key, -, rfl⟩ := Option.map_eq_some_iff.1 hrequest
      exact ⟨field, op, hpart⟩
  | _ => exact absurd hrequest (by simp [request?])

theorem served_iff :
    (∀ part ∈ conjuncts query, Served c part) ↔
      query.Conjunctive ∧ ∀ field op value, .comparison field op value ∈ conjuncts query →
        c.Serves field op value := by
  rw [conjunctive_iff]
  constructor
  · intro h
    refine ⟨fun part hpart => ?_, fun field op value hpart => ?_⟩
    · obtain ⟨field, op, value, heq, -⟩ := h part hpart
      exact ⟨field, op, value, heq⟩
    · obtain ⟨_, _, _, heq, hserves⟩ := h _ hpart
      obtain ⟨rfl, rfl, rfl⟩ := Expr.comparison.inj heq
      exact hserves
  · rintro ⟨hcomparison, hserves⟩ part hpart
    obtain ⟨field, op, value, rfl⟩ := hcomparison part hpart
    exact ⟨field, op, value, rfl, hserves field op value hpart⟩

/-- A tree that the server can answer alone: `AND` and groups put it together from comparisons
that the server can make, and all values for one request parameter are equal. -/
structure Sendable (c : Capabilities) (query : Expr) : Prop where
  conjunctive : query.Conjunctive
  served : ∀ field op value, .comparison field op value ∈ conjuncts query → c.Serves field op value
  consistent : Consistent (requests c query)

/-- The values of the comparisons can be shown: no integer in them has too many digits. -/
def Shown (query : Expr) : Prop :=
  ∀ field op value, .comparison field op value ∈ conjuncts query → value.isShowable = true

theorem shown_iff_of_served
    (served : ∀ field op value, .comparison field op value ∈ conjuncts query →
      c.Serves field op value) :
    Shown query ↔ ∀ pair ∈ requests c query, pair.2.isShowable = true := by
  constructor
  · intro h pair hpair
    obtain ⟨field, op, hpart⟩ := mem_requests hpair
    exact h field op pair.2 hpart
  · intro h field op value hpart
    obtain ⟨key, hkey⟩ := (served field op value hpart).known
    refine h (key, value) (List.mem_filterMap.2 ⟨_, hpart, ?_⟩)
    rw [request?, hkey]
    rfl

/-- A filter with consistent values can be shown if all of them can, since those that another
one has replaced were equal to it. -/
theorem showableEntries_filterOf (consistent : Consistent sent)
    (regular : ∀ pair ∈ sent, pair.2.Regular) :
    Value.showableEntries (filterOf c sent) = true ↔
      ∀ pair ∈ sent, pair.2.isShowable = true := by
  have hnodup : (filterOf c sent).keys.Nodup := Entries.nodup_keys_ofList _
  rw [Value.showableEntries_iff]
  constructor
  · intro h pair hpair
    obtain ⟨stored, hstored⟩ := Entries.mem_keys_iff.1
      (mem_keys_filterOf (c := c).2 (List.mem_map.2 ⟨pair, hpair, rfl⟩))
    have hshown := h _ (Entries.mem_of_get? hstored)
    rw [get?_filterOf, Option.map_eq_some_iff] at hstored
    obtain ⟨last, hlast, rfl⟩ := hstored
    have hmem : (pair.1, last) ∈ sent := List.mem_reverse.1 (Entries.mem_of_get? hlast)
    have hsame := consistent pair hpair _ hmem rfl
    rw [(regular pair hpair).isShowable_eq (regular _ hmem) hsame]
    rwa [isShowable_sentValue] at hshown
  · rintro h ⟨key, stored⟩ hentry
    have hstored := Entries.get?_of_mem hnodup hentry
    rw [get?_filterOf, Option.map_eq_some_iff] at hstored
    obtain ⟨last, hlast, rfl⟩ := hstored
    rw [isShowable_sentValue]
    exact h _ (List.mem_reverse.1 (Entries.mem_of_get? hlast))

section Complete

variable (complete : query.Complete) (regular : ∀ pair ∈ requests c query, pair.2.Regular)
include complete regular

/-- The walk over a tree with regular values finds nothing against it exactly if it is
sendable, and the filter then has what was sent. -/
theorem visit_iff_sendable :
    ((Walk.start.visit c query).1 = true ↔ Sendable c query) ∧
    (Sendable c query → (Walk.start.visit c query).2.filter = filterOf c (requests c query)) := by
  obtain ⟨hiff, hfilter⟩ := absorb_run complete (fun _ hpart => hpart) regular
  have hverdict := (Walk.visit_fst_iff (c := c) complete .start).2
  rw [show Walk.start.reasons.length = 0 from rfl, List.length_eq_zero_iff] at hverdict
  rw [← Walk.visit_snd] at hiff hfilter
  have hsendable : (Walk.start.visit c query).2.reasons = [] ↔ Sendable c query := by
    rw [hiff, served_iff]
    constructor
    · rintro ⟨⟨conjunctive, served⟩, consistent⟩
      exact ⟨conjunctive, served, consistent⟩
    · rintro ⟨conjunctive, served, consistent⟩
      exact ⟨⟨conjunctive, served⟩, consistent⟩
  exact ⟨hverdict.trans hsendable, fun sendable => hfilter (hsendable.2 sendable)⟩

theorem showable_iff_shown (sendable : Sendable c query) :
    Value.showableEntries (Walk.start.visit c query).2.filter = true ↔ Shown query := by
  rw [(visit_iff_sendable complete regular).2 sendable,
    showableEntries_filterOf sendable.consistent regular, shown_iff_of_served sendable.served]

theorem decided_of_regular :
    (Decided c query .server ↔ Sendable c query ∧ Shown query) ∧
    (Decided c query .failed ↔ Sendable c query ∧ ¬ Shown query) ∧
    (Decided c query .client ↔ ¬ Sendable c query) := by
  have hverdict := (visit_iff_sendable complete regular).1
  have hshown := showable_iff_shown complete regular
  have hquery := isEmptyQuery_of_complete complete
  refine ⟨⟨?_, ?_⟩, ⟨?_, ?_⟩, ⟨?_, ?_⟩⟩
  · rintro (_ | _ | ⟨-, sent, shown⟩ | _)
    have sendable := hverdict.1 sent
    exact ⟨sendable, (hshown sendable).1 shown⟩
  · rintro ⟨sendable, shown⟩
    exact .server hquery (hverdict.2 sendable) ((hshown sendable).2 shown)
  · rintro (_ | ⟨-, sent, long⟩ | _ | _)
    have sendable := hverdict.1 sent
    refine ⟨sendable, fun shown => ?_⟩
    exact Bool.false_ne_true (long.symm.trans ((hshown sendable).2 shown))
  · rintro ⟨sendable, hnot⟩
    refine .failed hquery (hverdict.2 sendable) (Bool.eq_false_of_not_eq_true ?_)
    exact mt (hshown sendable).1 hnot
  · rintro (_ | _ | _ | ⟨-, kept⟩) sendable
    exact Bool.false_ne_true (kept.symm.trans (hverdict.2 sendable))
  · intro hnot
    exact .client hquery (Bool.eq_false_of_not_eq_true (mt hverdict.1 hnot))

theorem serverFilter_of_server (h : Decided c query .server) :
    (compile c query).serverFilter = filterOf c (requests c query) := by
  have sendable := ((decided_of_regular complete regular).1.1 h).1
  cases h with
  | server given sent shown =>
      rw [compile_of_not_empty c given, Walk.result, if_pos sent, if_pos shown]
      exact (visit_iff_sendable complete regular).2 sendable

end Complete

theorem sendable_perm (perm : (conjuncts other).Perm (conjuncts query)) :
    (Sendable c other ↔ Sendable c query) ∧ (Shown other ↔ Shown query) := by
  have hrequests : (requests c other).Perm (requests c query) := perm.filterMap (request? c)
  have hconjunctive : other.Conjunctive ↔ query.Conjunctive := by
    simp only [conjunctive_iff, perm.mem_iff]
  have hconsistent : Consistent (requests c other) ↔ Consistent (requests c query) := by
    simp only [Consistent, hrequests.mem_iff]
  refine ⟨⟨fun h => ⟨hconjunctive.1 h.conjunctive, ?_, hconsistent.1 h.consistent⟩,
    fun h => ⟨hconjunctive.2 h.conjunctive, ?_, hconsistent.2 h.consistent⟩⟩, ?_⟩
  · exact fun field op value hpart => h.served field op value (perm.mem_iff.2 hpart)
  · exact fun field op value hpart => h.served field op value (perm.mem_iff.1 hpart)
  · simp only [Shown, perm.mem_iff]

/-- The order of the conjuncts does not matter to the outcome, and to the filter only up to
equality. -/
theorem decided_perm {outcome : Outcome} (complete : query.Complete)
    (regular : ∀ pair ∈ requests c query, pair.2.Regular)
    (perm : (conjuncts other).Perm (conjuncts query)) (h : Decided c query outcome) :
    Decided c other outcome ∧ Value.same (.mapping (compile c other).serverFilter)
      (.mapping (compile c query).serverFilter) = true := by
  have hrequests : (requests c other).Perm (requests c query) := perm.filterMap (request? c)
  have complete' : other.Complete := by
    rw [complete_iff] at complete ⊢
    exact fun part hpart => complete part (perm.mem_iff.1 hpart)
  have regular' : ∀ pair ∈ requests c other, pair.2.Regular := fun pair hpair =>
    regular pair (hrequests.mem_iff.1 hpair)
  obtain ⟨hserver, hfailed, hclient⟩ := decided_of_regular complete regular
  obtain ⟨hserver', hfailed', hclient'⟩ := decided_of_regular complete' regular'
  obtain ⟨hsendable, hshown⟩ := sendable_perm (c := c) perm
  cases outcome with
  | refused =>
      obtain rfl := decided_refused_iff.1 h
      exact complete.elim
  | failed =>
      have hother : Decided c other .failed := by rwa [hfailed', hsendable, hshown, ← hfailed]
      refine ⟨hother, ?_⟩
      rw [h.describes.filter, hother.describes.filter]
      rfl
  | server =>
      have hother : Decided c other .server := by rwa [hserver', hsendable, hshown, ← hserver]
      refine ⟨hother, ?_⟩
      rw [serverFilter_of_server complete regular h,
        serverFilter_of_server complete' regular' hother]
      exact same_filterOf hrequests (hserver.1 h).1.consistent
  | client =>
      have hother : Decided c other .client := by rwa [hclient', hsendable, ← hclient]
      refine ⟨hother, ?_⟩
      rw [h.describes.filter, hother.describes.filter]
      rfl

/-- A tree goes to the server exactly if it is sendable and no value in it has an integer of too
many digits, fails exactly if it is sendable and some value has, and otherwise stays with the
client. The filter of a tree that goes to the server has the parameters in order of their first
comparison, each with the value of its last one. Other orders and brackets have the same outcome
and an equal filter. -/
theorem server_only_iff_consistent (c : Capabilities) (query : Expr) (complete : query.Complete)
    (regular : ∀ field op value, .comparison field op value ∈ conjuncts query → value.Regular) :
    (LeftToServer (compile c query) ↔ Sendable c query ∧ Shown query) ∧
    (Rejected longIntegerError (compile c query) ↔ Sendable c query ∧ ¬ Shown query) ∧
    (LeftToClient query (compile c query) ↔ ¬ Sendable c query) ∧
    (LeftToServer (compile c query) →
      (compile c query).serverFilter.keys = distinct ((requests c query).map Prod.fst) ∧
      ∀ key, (compile c query).serverFilter.get? key =
        (Entries.get? (requests c query).reverse key).map (Walk.sentValue c key)) ∧
    ∀ other, (conjuncts other).Perm (conjuncts query) →
      (compile c other).errors = (compile c query).errors ∧
      (compile c other).requiresClient = (compile c query).requiresClient ∧
      Value.same (.mapping (compile c other).serverFilter)
        (.mapping (compile c query).serverFilter) = true := by
  have hregular : ∀ pair ∈ requests c query, pair.2.Regular := by
    intro pair hpair
    obtain ⟨field, op, hpart⟩ := mem_requests hpair
    exact regular field op pair.2 hpart
  obtain ⟨hserver, hfailed, hclient⟩ := decided_of_regular complete hregular
  refine ⟨describes_iff.trans hserver, describes_iff.trans hfailed, describes_iff.trans hclient,
    fun left => ?_, fun other perm => ?_⟩
  · rw [serverFilter_of_server complete hregular (describes_iff.1 left)]
    exact ⟨keys_filterOf c _, get?_filterOf c _⟩
  · have hquery := decided_outcomeOf c query
    obtain ⟨hother, hfilter⟩ := decided_perm complete hregular perm hquery
    refine ⟨hother.describes.errors_eq.trans hquery.describes.errors_eq.symm, ?_, hfilter⟩
    exact Bool.eq_iff_iff.2 (hother.describes.client_iff.trans hquery.describes.client_iff.symm)

/-- Being sendable does not put a query on the server: a value may have an integer of too many
digits. -/
theorem longStatus_sendable :
    ¬∀ (c : Capabilities) (query : Expr), query.Complete →
      (∀ field op value, .comparison field op value ∈ conjuncts query → value.Regular) →
      Sendable c query → LeftToServer (compile c query) := by
  intro h
  have hpart : ∀ {field op value}, .comparison field op value ∈ conjuncts longStatus →
      field = "status" ∧ op = .eq ∧ value = .int (Nat.pow 10 Number.digitLimit) := fun hmem =>
    Expr.comparison.inj (List.mem_singleton.1 hmem)
  have regular : ∀ field op value, .comparison field op value ∈ conjuncts longStatus →
      value.Regular := by
    intro field op value hmem
    obtain ⟨-, -, rfl⟩ := hpart hmem
    exact .int _
  have sendable : Sendable .standard longStatus := by
    refine ⟨trivial, fun field op value hmem => ?_, ?_⟩
    · obtain ⟨rfl, rfl, rfl⟩ := hpart hmem
      exact ⟨by decide, by decide, ⟨"status", by decide⟩, nofun⟩
    · intro a ha b hb hkey
      obtain ⟨field, op, hmem⟩ := mem_requests ha
      obtain ⟨field', op', hmem'⟩ := mem_requests hb
      rw [(hpart hmem).2.2, (hpart hmem').2.2]
      exact (Value.Regular.int _).refl
  have hleft := h .standard longStatus trivial regular sendable
  exact absurd hleft.errors (by decide +kernel)

theorem representable_one : Representable unitsPerOne := by decide +kernel

/-- A priority as an integer and as a double, with a label in between. -/
def urgentAtHome : Expr :=
  .and (.comparison "priority" .eq (.int 1))
    (.and (.comparison "tags" .eq (.text "home"))
      (.comparison "priority" .eq (.float (.finite false unitsPerOne representable_one))))

def urgentFirst : Expr :=
  .and
    (.group (.and
      (.comparison "priority" .eq (.float (.finite false unitsPerOne representable_one)))
      (.comparison "priority" .eq (.int 1))))
    (.comparison "tags" .eq (.text "home"))

theorem consistent_urgentAtHome : Consistent (requests .standard urgentAtHome) := by
  have hrequests : requests .standard urgentAtHome =
      [("priority", .int 1), ("tags", .text "home"),
        ("priority", .float (.finite false unitsPerOne representable_one))] := rfl
  rw [hrequests]
  intro a ha b hb hab
  simp only [List.mem_cons, List.not_mem_nil, or_false] at ha hb
  rcases ha with rfl | rfl | rfl <;> rcases hb with rfl | rfl | rfl <;>
    first
    | exact absurd hab (by decide)
    | decide +kernel

theorem urgentAtHome_server_only :
    urgentAtHome.Complete ∧
    (∀ field op value, .comparison field op value ∈ conjuncts urgentAtHome → value.Regular) ∧
    LeftToServer (compile .standard urgentAtHome) ∧
    (compile .standard urgentAtHome).serverFilter.keys = ["priority", "tags"] ∧
    (compile .standard urgentFirst).requiresClient = false ∧
    Value.same (.mapping (compile .standard urgentFirst).serverFilter)
      (.mapping (compile .standard urgentAtHome).serverFilter) = true := by
  have complete : urgentAtHome.Complete := ⟨trivial, trivial, trivial⟩
  have hparts : ∀ {field op value}, .comparison field op value ∈ conjuncts urgentAtHome →
      value.Regular ∧ value.isShowable = true ∧ Capabilities.standard.Serves field op value := by
    intro field op value h
    rw [show conjuncts urgentAtHome = [_, _, _] from rfl] at h
    simp only [List.mem_cons, List.not_mem_nil, or_false, Expr.comparison.injEq] at h
    obtain ⟨rfl, rfl, rfl⟩ | ⟨rfl, rfl, rfl⟩ | ⟨rfl, rfl, rfl⟩ := h
    · exact ⟨.int 1, by decide +kernel, by decide, by decide, ⟨"priority", by decide⟩, by simp⟩
    · exact ⟨.text "home", rfl, by decide, by decide, ⟨"tags", by decide⟩, by simp⟩
    · exact ⟨.float _ (by simp), rfl, by decide, by decide, ⟨"priority", by decide⟩, by simp⟩
  have regular : ∀ field op value, .comparison field op value ∈ conjuncts urgentAtHome →
      value.Regular := fun _ _ _ h => (hparts h).1
  have sendable : Sendable .standard urgentAtHome :=
    ⟨⟨trivial, trivial, trivial⟩, fun _ _ _ h => (hparts h).2.2, consistent_urgentAtHome⟩
  obtain ⟨hserver, -, -, hfilter, horder⟩ :=
    server_only_iff_consistent .standard urgentAtHome complete regular
  have left := hserver.2 ⟨sendable, fun _ _ _ h => (hparts h).2.1⟩
  have hperm : (conjuncts urgentFirst).Perm (conjuncts urgentAtHome) := by
    refine (List.Perm.swap _ _ _).trans (.cons _ (.swap _ _ _))
  obtain ⟨-, hverdict, hsame⟩ := horder urgentFirst hperm
  exact ⟨complete, regular, left, (hfilter left).1, hverdict.trans left.client, hsame⟩

end Server

end TaskQuery
