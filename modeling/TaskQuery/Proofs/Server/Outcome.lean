import Mathlib.Logic.ExistsUnique
import TaskQuery.Proofs.Server.Folding
import TaskQuery.Proofs.Server.Gathering
/-!
# The outcomes of a compilation

A query is refused, goes to the server as a whole, or stays with the client as a whole. One
that would go to the server fails if its filter cannot be shown in the log. What the walk had
entered in the filter before it met a reason does not show in the result, and neither does
anything that the compiler has done before.
-/

namespace TaskQuery.Server

open Query (Expr evaluate)

structure Rejected (message : String) (r : Compilation) : Prop where
  errors : r.errors = [message]
  filter : r.serverFilter = []
  predicate : r.clientQuery = none
  client : r.requiresClient = false
  warnings : r.warnings = []

/-- A query that the server answers alone. -/
structure LeftToServer (r : Compilation) : Prop where
  errors : r.errors = []
  warnings : r.warnings = []
  predicate : r.clientQuery = none
  client : r.requiresClient = false

/-- A query that the client answers alone: the server sends all records, and the client
keeps those that the whole tree selects. -/
structure LeftToClient (query : Expr) (r : Compilation) : Prop where
  errors : r.errors = []
  filter : r.serverFilter = []
  predicate : r.clientQuery.isSome = true
  client : r.requiresClient = true
  warnings : ∃ reasons : List Reason, r.warnings = clientWarning :: reasons.map Reason.message
  keeps : ∀ records : List Value, r.apply records = records.filter (evaluate query)

/-- What becomes of a query. -/
inductive Outcome where
  | refused
  | failed
  | server
  | client
  deriving DecidableEq, Repr

def Outcome.Describes (query : Expr) (r : Compilation) : Outcome → Prop
  | .refused => Rejected emptyQueryError r
  | .failed => Rejected longIntegerError r
  | .server => LeftToServer r
  | .client => LeftToClient query r

variable {c : Capabilities} {query : Expr} {r : Compilation} {first second : Outcome}

theorem emptyQueryError_ne_longIntegerError : emptyQueryError ≠ longIntegerError := by
  decide +kernel

theorem isEmptyQuery_iff : isEmptyQuery query = true ↔ query = .group .absent := by
  cases query with
  | group inner => cases inner <;> simp [isEmptyQuery]
  | _ => simp [isEmptyQuery]

def Outcome.errors : Outcome → List String
  | .refused => [emptyQueryError]
  | .failed => [longIntegerError]
  | .server | .client => []

theorem Outcome.Describes.errors_eq (h : first.Describes query r) :
    r.errors = first.errors := by
  cases first with
  | refused => exact h.errors
  | failed => exact h.errors
  | server => exact h.errors
  | client => exact h.errors

theorem Outcome.Describes.client_iff (h : first.Describes query r) :
    r.requiresClient = true ↔ first = .client := by
  cases first with
  | refused => simp [h.client]
  | failed => simp [h.client]
  | server => simp [h.client]
  | client => simp [h.client]

/-- The errors set a refusal and a failure apart, and the client's part the other two. -/
theorem Outcome.Describes.unique (h : first.Describes query r)
    (k : second.Describes query r) : first = second := by
  have herrors := h.errors_eq.symm.trans k.errors_eq
  have hclient := h.client_iff.symm.trans k.client_iff
  have hne := emptyQueryError_ne_longIntegerError
  cases first <;> cases second <;> simp_all [Outcome.errors]

/-! ## From the walk to the outcome -/

/-- The outcome that the walk over a tree decides, after the empty query is set aside. -/
def outcomeOf (c : Capabilities) (query : Expr) : Outcome :=
  if isEmptyQuery query then .refused
  else if (Walk.start.visit c query).1 then
    if Value.showableEntries (Walk.start.visit c query).2.filter then .server else .failed
  else .client

inductive Decided (c : Capabilities) (query : Expr) : Outcome → Prop where
  | refused (empty : isEmptyQuery query = true) : Decided c query .refused
  | failed (given : isEmptyQuery query = false) (sent : (Walk.start.visit c query).1 = true)
      (long : Value.showableEntries (Walk.start.visit c query).2.filter = false) :
      Decided c query .failed
  | server (given : isEmptyQuery query = false) (sent : (Walk.start.visit c query).1 = true)
      (shown : Value.showableEntries (Walk.start.visit c query).2.filter = true) :
      Decided c query .server
  | client (given : isEmptyQuery query = false) (kept : (Walk.start.visit c query).1 = false) :
      Decided c query .client

theorem decided_outcomeOf (c : Capabilities) (query : Expr) :
    Decided c query (outcomeOf c query) := by
  unfold outcomeOf
  cases hquery : isEmptyQuery query with
  | true => exact .refused hquery
  | false =>
      cases hverdict : (Walk.start.visit c query).1 with
      | false => exact .client hquery hverdict
      | true =>
          cases hshown : Value.showableEntries (Walk.start.visit c query).2.filter with
          | true => exact .server hquery hverdict hshown
          | false => exact .failed hquery hverdict hshown

theorem Decided.describes (h : Decided c query first) :
    first.Describes query (compile c query) := by
  cases h with
  | refused empty =>
      rw [compile_of_empty c empty]
      exact ⟨rfl, rfl, rfl, rfl, rfl⟩
  | failed given sent long =>
      rw [compile_of_not_empty c given, Walk.result, if_pos sent, long,
        if_neg Bool.false_ne_true]
      exact ⟨rfl, rfl, rfl, rfl, rfl⟩
  | server given sent shown =>
      rw [compile_of_not_empty c given, Walk.result, if_pos sent, if_pos shown]
      exact ⟨rfl, rfl, rfl, rfl⟩
  | client given kept =>
      rw [compile_of_not_empty c given, Walk.result, kept, if_neg Bool.false_ne_true]
      exact ⟨rfl, rfl, rfl, rfl, ⟨_, rfl⟩, fun _ => rfl⟩

theorem describes_iff : first.Describes query (compile c query) ↔ Decided c query first := by
  have hdecided := decided_outcomeOf c query
  refine ⟨fun h => ?_, Decided.describes⟩
  rwa [h.unique hdecided.describes]

theorem leftToClient_of_requiresClient (h : (compile c query).requiresClient = true) :
    LeftToClient query (compile c query) := by
  have hdescribes := (decided_outcomeOf c query).describes
  rwa [hdescribes.client_iff.1 h] at hdescribes

theorem decided_refused_iff : Decided c query .refused ↔ query = .group .absent := by
  rw [← isEmptyQuery_iff]
  refine ⟨fun h => ?_, .refused⟩
  cases h with
  | refused empty => exact empty

/-- A query fails if the walk has found nothing against it, but has entered an integer of too
many digits. -/
theorem decided_failed_iff :
    Decided c query .failed ↔ (Walk.start.visit c query).1 = true ∧
      ∃ entry ∈ (Walk.start.visit c query).2.filter, entry.2.isShowable = false := by
  have hlong : (∃ entry ∈ (Walk.start.visit c query).2.filter, entry.2.isShowable = false) ↔
      Value.showableEntries (Walk.start.visit c query).2.filter = false := by
    rw [← Bool.not_eq_true, Value.showableEntries_iff]
    simp
  rw [hlong]
  constructor
  · intro h
    cases h with
    | failed given sent long => exact ⟨sent, long⟩
  · rintro ⟨sent, long⟩
    refine .failed ?_ sent long
    by_contra hempty
    rw [isEmptyQuery_iff.1 (Bool.eq_true_of_not_eq_false hempty)] at sent
    cases sent

theorem exists_long_of_failed (h : Decided c query .failed) :
    ∃ field op value, .comparison field op value ∈ conjuncts query ∧
      value.isShowable = false := by
  obtain ⟨-, entry, hentry, hlong⟩ := decided_failed_iff.1 h
  rcases mem_filter_visit hentry with hstart | ⟨field, op, value, hpart, -, heq⟩
  · exact absurd hstart List.not_mem_nil
  · rw [heq, isShowable_sentValue] at hlong
    exact ⟨field, op, value, hpart, hlong⟩

theorem mem_serverFilter {entry : String × Value} (h : entry ∈ (compile c query).serverFilter) :
    ∃ field op value, .comparison field op value ∈ conjuncts query ∧
      c.Sends field op entry.1 ∧ entry.2 = Walk.sentValue c entry.1 value := by
  have hdecided := decided_outcomeOf c query
  generalize outcomeOf c query = outcome at hdecided
  have hdescribes := hdecided.describes
  cases hdecided with
  | server given sent shown =>
      rw [compile_of_not_empty c given, Walk.result, if_pos sent, if_pos shown] at h
      exact (mem_filter_visit h).resolve_left List.not_mem_nil
  | _ => exact absurd (hdescribes.filter ▸ h) List.not_mem_nil

theorem warnings_of_client (h : Decided c query .client) :
    (compile c query).warnings =
      clientWarning :: (Walk.start.visit c query).2.reasons.map Reason.message := by
  cases h with
  | client given kept =>
      rw [compile_of_not_empty c given, Walk.result, kept, if_neg Bool.false_ne_true]

theorem exists_reason_of_complete (complete : query.Complete) (h : Decided c query .client) :
    ∃ (reason : Reason) (rest : List Reason), (compile c query).warnings =
      clientWarning :: reason.message :: rest.map Reason.message := by
  have hwarnings := warnings_of_client h
  cases h with
  | client given kept =>
      -- The walk starts without a reason, and its verdict is whether one was added.
      have hadded : (Walk.start.visit c query).2.reasons ≠ [] := by
        intro hnone
        have hiff := (Walk.visit_fst_iff (c := c) complete .start).2
        rw [kept, hnone] at hiff
        exact Bool.false_ne_true (hiff.2 rfl)
      obtain ⟨reason, rest, hreasons⟩ := List.exists_cons_of_ne_nil hadded
      refine ⟨reason, rest, ?_⟩
      rw [hwarnings, hreasons, List.map_cons]

/-! ## One compiler for many queries -/

namespace Compiler

variable {m : Compiler} {queries : List Expr}

/-- A compiler compiles each query as if it were its first one. -/
theorem compile_fst (m : Compiler) (query : Expr) :
    (m.compile query).1 = Server.compile m.capabilities query := by
  cases hquery : isEmptyQuery query with
  | true => rw [compile_of_empty m hquery, Server.compile_of_empty _ hquery]
  | false => rw [compile_of_not_empty m hquery, Server.compile_of_not_empty _ hquery]

theorem capabilities_compile (m : Compiler) (query : Expr) :
    (m.compile query).2.capabilities = m.capabilities := by
  cases hquery : isEmptyQuery query with
  | true => rw [compile_of_empty m hquery, reset]
  | false => rw [compile_of_not_empty m hquery]

theorem capabilities_compileAll (m : Compiler) (queries : List Expr) :
    (m.compileAll queries).capabilities = m.capabilities := by
  induction queries generalizing m with
  | nil => rfl
  | cons query rest ih =>
      calc
        (m.compileAll (query :: rest)).capabilities
          = ((m.compile query).2.compileAll rest).capabilities := rfl
        _ = (m.compile query).2.capabilities := ih _
        _ = m.capabilities := capabilities_compile m query

theorem compile_compileAll (c : Capabilities) (queries : List Expr) (query : Expr) :
    (((fresh c).compileAll queries).compile query).1 = Server.compile c query := by
  rw [compile_fst, capabilities_compileAll]
  rfl

end Compiler

/-- Compilation is all or nothing. Whatever a compiler has compiled before, it does what a
fresh one does: it refuses the query, fails on it, leaves all of it to the server, or leaves all
of it to the client, exactly one of these. It refuses the empty query and nothing else. It fails
exactly on a query that would go to the server with an integer of too many digits, so on none
without such an integer, and there are no other errors. A complete tree stays with the client
for a reason. -/
theorem compile_all_or_nothing (c : Capabilities) (earlier : List Expr) (query : Expr) :
    let result := (((Compiler.fresh c).compileAll earlier).compile query).1
    result = ((Compiler.fresh c).compile query).1 ∧
    (∃! outcome : Outcome, outcome.Describes query result) ∧
    (Outcome.refused.Describes query result ↔ query = .group .absent) ∧
    (Outcome.failed.Describes query result ↔ (Walk.start.visit c query).1 = true ∧
      ∃ entry ∈ (Walk.start.visit c query).2.filter, entry.2.isShowable = false) ∧
    (Outcome.failed.Describes query result → ∃ field op value,
      .comparison field op value ∈ conjuncts query ∧ value.isShowable = false) ∧
    (∀ message ∈ result.errors, message = emptyQueryError ∨ message = longIntegerError) ∧
    (query.Complete → Outcome.client.Describes query result →
      ∃ (reason : Reason) (rest : List Reason), result.warnings =
        clientWarning :: reason.message :: rest.map Reason.message) := by
  intro result
  have hresult : result = compile c query := Compiler.compile_compileAll c earlier query
  have hdecided := decided_outcomeOf c query
  rw [hresult]
  simp only [describes_iff]
  refine ⟨rfl, ⟨outcomeOf c query, hdecided, fun other h => ?_⟩, decided_refused_iff,
    decided_failed_iff, exists_long_of_failed, fun message hmessage => ?_,
    exists_reason_of_complete⟩
  · exact h.describes.unique hdecided.describes
  · rw [hdecided.describes.errors_eq] at hmessage
    generalize outcomeOf c query = outcome at hmessage
    cases outcome with
    | refused => exact .inl (List.mem_singleton.1 hmessage)
    | failed => exact .inr (List.mem_singleton.1 hmessage)
    | _ => exact absurd hmessage List.not_mem_nil

/-- Refusing, the server and the client are not all that can become of a query. -/
theorem longStatus_fails :
    ¬∀ (c : Capabilities) (earlier : List Expr) (query : Expr),
      let result := (((Compiler.fresh c).compileAll earlier).compile query).1
      Outcome.refused.Describes query result ∨ Outcome.server.Describes query result ∨
        Outcome.client.Describes query result := by
  intro h
  have hfailed : outcomeOf .standard longStatus = .failed := by decide +kernel
  have hdecided := decided_outcomeOf .standard longStatus
  have hshape := h .standard [] longStatus
  rw [Compiler.compile_compileAll] at hshape
  generalize longStatus = query at hfailed hdecided hshape
  rw [hfailed] at hdecided
  rcases hshape with hrefused | hserver | hclient
  · exact absurd (hdecided.describes.unique hrefused) (by decide)
  · exact absurd (hdecided.describes.unique hserver) (by decide)
  · exact absurd (hdecided.describes.unique hclient) (by decide)

end TaskQuery.Server
