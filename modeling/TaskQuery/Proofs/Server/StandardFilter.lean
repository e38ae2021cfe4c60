import TaskQuery.Proofs.Query.FieldCheck
import TaskQuery.Proofs.Server.Filter
import TaskQuery.Proofs.Value.Order
/-!
# The filters of the standard server

The standard server has one parameter for `<` and `<=` on `due_at`, and one for `>` and
`>=`. Whether a bound is strict is all that a filter forgets of a query.
-/

namespace TaskQuery.Server

open Query (Expr Operator parseTokens evaluate selects fieldOf)
open Value (Alike Bounds)
open Capabilities (standard)

/-- The strict and the loose operator on `due_at` that share a parameter. -/
def sharedBounds : List (Operator × Operator × String) :=
  [(.lt, .le, "due_before"), (.gt, .ge, "due_after")]

theorem bounds_of_shared {strict loose : Operator} {key : String}
    (h : (strict, loose, key) ∈ sharedBounds) :
    Bounds strict loose ∧ standard.takesList key = false := by
  rcases List.mem_cons.1 h with h | h
  · obtain ⟨rfl, rfl, rfl⟩ := by simpa using h
    exact ⟨.below, by decide⟩
  · obtain ⟨rfl, rfl, rfl⟩ := by simpa using h
    exact ⟨.above, by decide⟩

/-- A parameter of the standard server stands for one comparison up to strictness. -/
theorem standard_sends {field field' key : String} {op op' : Operator}
    (h : standard.Sends field op key) (h' : standard.Sends field' op' key) :
    field = field' ∧ (op = op' ∨ (field = "due_at" ∧
      ((op, op', key) ∈ sharedBounds ∨ (op', op, key) ∈ sharedBounds))) := by
  have hrows : ∀ r ∈ standard.rows, ∀ r' ∈ standard.rows, r.2.2 = r'.2.2 →
      r.1 = r'.1 ∧ (r.2.1 = r'.2.1 ∨ (r.1 = "due_at" ∧
        ((r.2.1, r'.2.1, r.2.2) ∈ sharedBounds ∨ (r'.2.1, r.2.1, r.2.2) ∈ sharedBounds))) := by
    decide
  exact hrows _ h.mem_rows _ h'.mem_rows rfl

def BoundsDue (query : Expr) (op : Operator) : Prop :=
  ∃ value, .comparison "due_at" op value ∈ conjuncts query

def onBound (filter record : Entries String Value) (key : String) : Bool :=
  (filter.get? key).any fun bound => (fieldOf record "due_at").equals bound

theorem onBound_iff {filter record : Entries String Value} {key : String} :
    onBound filter record key = true ↔
      ∃ bound, filter.get? key = some bound ∧ (fieldOf record "due_at").equals bound = true :=
  Option.any_eq_true _ _

/-- Whether each value sent in a filter has an alike one in another filter. -/
def Covered (filter other : Entries String Value) : Prop :=
  ∀ key sent, filter.get? key = some (Walk.sentValue standard key sent) →
    ∃ sent', other.get? key = some (Walk.sentValue standard key sent') ∧ Alike sent sent'

variable {left right : Expr} {filter other record : Entries String Value}

theorem covered_of_same (hl : Gathered standard (conjuncts left) filter)
    (hr : Gathered standard (conjuncts right) other)
    (hlit : ∀ part ∈ conjuncts left, IsLiteralPart part)
    (hlit' : ∀ part ∈ conjuncts right, IsLiteralPart part)
    (equal : Value.same (.mapping filter) (.mapping other) = true) :
    Covered filter other ∧ Covered other filter := by
  have halike : ∀ {key : String} {sent sent' : Value},
      filter.get? key = some (Walk.sentValue standard key sent) →
      other.get? key = some (Walk.sentValue standard key sent') →
      (Walk.sentValue standard key sent).same (Walk.sentValue standard key sent') = true →
        Alike sent sent' := by
    intro key sent sent' hf ho hsame
    rw [same_sentValue] at hsame
    exact Value.alike_of_same (hl.isLiteral_of_stored hlit hf)
      (hr.isLiteral_of_stored hlit' ho) hsame
  constructor
  · intro key sent hf
    obtain ⟨w, ho, hsame⟩ := Value.get?_of_same_mapping equal hf
    obtain ⟨-, -, sent', -, -, rfl⟩ := hr.origin key w ho
    exact ⟨sent', ho, halike hf ho hsame⟩
  · intro key sent ho
    obtain ⟨v, hf, hsame⟩ := Value.get?_of_same_mapping_right equal hl.nodup ho
    obtain ⟨-, -, sent', -, -, rfl⟩ := hl.origin key v hf
    exact ⟨sent', hf, (halike hf ho hsame).symm⟩

theorem onBound_of_covered {key : String} (h : Covered filter other)
    (hlist : standard.takesList key = false) (hon : onBound filter record key = true) :
    onBound other record key = true := by
  have hsent : ∀ v, Walk.sentValue standard key v = v := by
    intro v
    rw [Walk.sentValue, hlist]
    rfl
  obtain ⟨bound, hbound, hequals⟩ := onBound_iff.1 hon
  obtain ⟨bound', hbound', halike⟩ := h key bound (by rw [hsent, hbound])
  rw [hsent] at hbound'
  exact onBound_iff.2 ⟨bound', hbound', by rw [← halike.equals_right, hequals]⟩

/-- A query selects what another one selects if its filter is covered by that of the other
one, which is strict on every bound on which it is strict and the record stands. -/
theorem selects_of_covered (hl : Gathered standard (conjuncts left) filter)
    (hr : Gathered standard (conjuncts right) other) (covered : Covered filter other)
    (bounds : ∀ strict loose key, (strict, loose, key) ∈ sharedBounds →
      onBound filter record key = true → BoundsDue left strict → BoundsDue right strict)
    (h : selects record right = true) : selects record left = true := by
  rw [selects_eq_all, List.all_eq_true] at h ⊢
  intro part hpart
  obtain ⟨field, op, value, key, sent, rfl, hsends, hstored, halike⟩ := hl.stored part hpart
  obtain ⟨sent', hstored', hsent⟩ := covered key sent hstored
  obtain ⟨field', op', value', hmem, hsends', heq⟩ := hr.origin key _ hstored'
  obtain rfl := sentValue_inj heq
  have hholds : op'.holds (fieldOf record field') sent' = true := h _ hmem
  obtain ⟨rfl, hop⟩ := standard_sends hsends hsends'
  rw [selects, (halike.trans hsent).holds_eq hsends.1]
  rcases hop with rfl | ⟨rfl, hshared | hshared⟩
  · exact hholds
  · -- The conjunct is strict, the one behind the other filter is loose.
    obtain ⟨hbounds, hlist⟩ := bounds_of_shared hshared
    cases hon : (fieldOf record "due_at").equals sent with
    | false =>
        rw [hsent.equals_right] at hon
        exact Value.strict_of_loose hbounds hholds hon
    | true =>
        have hbound : onBound filter record key = true := by
          rw [Walk.sentValue, hlist] at hstored
          exact onBound_iff.2 ⟨sent, hstored, hon⟩
        obtain ⟨strictValue, hstrict⟩ := bounds _ _ _ hshared hbound ⟨value, hpart⟩
        have hstrictAlike := hr.alike_stored hstrict hsends hstored'
        rw [← hstrictAlike.holds_eq hsends.1]
        exact h _ hstrict
  · exact Value.loose_of_strict (bounds_of_shared hshared).1 hholds

/-! ## Texts -/

theorem capabilities_standard : Settings.standard.capabilities = .ok standard := rfl

theorem compile_standard {text : String} {r : Compilation}
    (compiled : Selector.compile .standard text = .ok r) (errors : r.errors = []) :
    (Selector.parse .standard text).errors = [] ∧
      r = compile standard (Selector.parse .standard text).tree := by
  rw [Selector.compile, capabilities_standard] at compiled
  split at compiled
  · rename_i hparsed
    exact ⟨List.isEmpty_iff.1 hparsed, (Except.ok.inj compiled).symm⟩
  · rename_i hparsed
    rw [← Except.ok.inj compiled] at errors
    exact absurd (List.isEmpty_iff.2 (List.map_eq_nil_iff.1 errors)) hparsed

theorem compile_of_parsed {text : String} (h : (Selector.parse .standard text).errors = []) :
    Selector.compile .standard text =
      .ok (compile standard (Selector.parse .standard text).tree) := by
  rw [Selector.compile, capabilities_standard]
  exact if_pos (List.isEmpty_iff.2 h)

theorem gathered_of_text {text : String} {r : Compilation}
    (compiled : Selector.compile .standard text = .ok r) (errors : r.errors = [])
    (server : r.requiresClient = false) :
    Gathered standard (conjuncts (Selector.parse .standard text).tree) r.serverFilter ∧
      ∀ part ∈ conjuncts (Selector.parse .standard text).tree, IsLiteralPart part := by
  obtain ⟨hparsed, rfl⟩ := compile_standard compiled errors
  obtain ⟨tokens, -, ha, hp⟩ := Selector.parse_eq_ofOutcome .standard hparsed
  rw [hp] at server ⊢
  exact ⟨gathered_of_accepted ha server, literal_of_accepted ha⟩

/-- Texts that the standard server takes with equal filters select the same records, except
that one of them may be strict where the `due_at` of a record stands on a bound. -/
theorem equal_filters_select (left right : String) (a b : Compilation)
    (record : Entries String Value)
    (compiled : Selector.compile .standard left = .ok a ∧
      Selector.compile .standard right = .ok b)
    (errors : a.errors = [] ∧ b.errors = [])
    (server : a.requiresClient = false ∧ b.requiresClient = false)
    (equal : Value.same (.mapping a.serverFilter) (.mapping b.serverFilter) = true)
    (bounds : ∀ strict loose key, (strict, loose, key) ∈ sharedBounds →
      onBound a.serverFilter record key = true →
        (BoundsDue (Selector.parse .standard left).tree strict ↔
          BoundsDue (Selector.parse .standard right).tree strict)) :
    evaluate (Selector.parse .standard left).tree (.mapping record) =
      evaluate (Selector.parse .standard right).tree (.mapping record) := by
  obtain ⟨hl, hlit⟩ := gathered_of_text compiled.1 errors.1 server.1
  obtain ⟨hr, hlit'⟩ := gathered_of_text compiled.2 errors.2 server.2
  obtain ⟨hleft, hright⟩ := covered_of_same hl hr hlit hlit' equal
  rw [evaluate, evaluate, Bool.eq_iff_iff]
  constructor
  · apply selects_of_covered hr hl hright
    intro strict loose key hshared hon
    exact (bounds strict loose key hshared
      (onBound_of_covered hright (bounds_of_shared hshared).2 hon)).2
  · apply selects_of_covered hl hr hleft
    intro strict loose key hshared hon
    exact (bounds strict loose key hshared hon).1

/-- The condition on bounds is needed: a filter does not tell `<` from `<=`. -/
theorem strictness_forgotten :
    ¬∀ (left right : String) (a b : Compilation) (record : Entries String Value),
      Selector.compile .standard left = .ok a → Selector.compile .standard right = .ok b →
      a.errors = [] → b.errors = [] → a.requiresClient = false → b.requiresClient = false →
      Value.same (.mapping a.serverFilter) (.mapping b.serverFilter) = true →
      evaluate (Selector.parse .standard left).tree (.mapping record) =
        evaluate (Selector.parse .standard right).tree (.mapping record) := by
  intro h
  let strict := Selector.parse .standard "due_at < '2026-01-01'"
  let loose := Selector.parse .standard "due_at <= '2026-01-01'"
  let record : Entries String Value := [("due_at", .text "2026-01-01")]
  have hfacts : (strict.errors = [] ∧ loose.errors = []) ∧
      ((compile standard strict.tree).errors = [] ∧ (compile standard loose.tree).errors = []) ∧
      ((compile standard strict.tree).requiresClient = false ∧
        (compile standard loose.tree).requiresClient = false) ∧
      Value.same (.mapping (compile standard strict.tree).serverFilter)
        (.mapping (compile standard loose.tree).serverFilter) = true ∧
      evaluate strict.tree (.mapping record) ≠ evaluate loose.tree (.mapping record) := by
    decide +kernel
  obtain ⟨parsed, errors, server, equal, hne⟩ := hfacts
  exact hne (h _ _ _ _ record (compile_of_parsed parsed.1) (compile_of_parsed parsed.2)
    errors.1 errors.2 server.1 server.2 equal)

theorem equal_filters_select_early :
    evaluate (Selector.parse .standard "due_at < '2026-01-01' AND status = 'Todo'").tree
        (.mapping [("status", .text "Todo"), ("due_at", .text "2025-12-31")]) =
      evaluate (Selector.parse .standard "status = 'Todo' AND (due_at <= '2026-01-01')").tree
        (.mapping [("status", .text "Todo"), ("due_at", .text "2025-12-31")]) := by
  let left := Selector.parse .standard "due_at < '2026-01-01' AND status = 'Todo'"
  let right := Selector.parse .standard "status = 'Todo' AND (due_at <= '2026-01-01')"
  have hfacts : (left.errors = [] ∧ right.errors = []) ∧
      ((compile standard left.tree).errors = [] ∧ (compile standard right.tree).errors = []) ∧
      ((compile standard left.tree).requiresClient = false ∧
        (compile standard right.tree).requiresClient = false) ∧
      Value.same (.mapping (compile standard left.tree).serverFilter)
        (.mapping (compile standard right.tree).serverFilter) = true ∧
      ∀ shared ∈ sharedBounds, onBound (compile standard left.tree).serverFilter
        [("status", .text "Todo"), ("due_at", .text "2025-12-31")] shared.2.2 = false := by
    decide +kernel
  obtain ⟨parsed, errors, server, equal, hoff⟩ := hfacts
  refine equal_filters_select _ _ _ _ _ ⟨compile_of_parsed parsed.1, compile_of_parsed parsed.2⟩
    errors server equal ?_
  intro strict loose key hshared hon
  exact absurd hon (by rw [hoff _ hshared]; simp)

end TaskQuery.Server
