import TaskQuery.Proofs.Query.Recognition
import TaskQuery.Proofs.Server.Gathering
/-!
# The server filter selects the records of the query

Where every request parameter stands for one comparison, the entries of a filter can be read
back as comparisons. A record that satisfies all of them is one that the query selects.
-/

namespace TaskQuery.Server

open Query (Expr Operator Token parseTokens evaluate selects)
open Query.Grammar (Derivation Test Symbol)
open Value (Alike)

/-! ## Queries that were read -/

theorem isLiteral_of_valueOf? {t : Token} {v : Value} (h : Query.Grammar.valueOf? t = some v) :
    v.IsLiteral ∧ v.isShowable = true := by
  unfold Query.Grammar.valueOf? at h
  split at h
  · exact Option.some.inj h ▸ ⟨trivial, rfl⟩
  · unfold Query.Grammar.numberOf? at h
    split at h
    · obtain ⟨d, -, rfl⟩ := Option.map_eq_some_iff.1 h
      exact ⟨trivial, rfl⟩
    · obtain ⟨n, hread, rfl⟩ := Option.map_eq_some_iff.1 h
      exact ⟨trivial, Number.isShowable_of_readInt? hread⟩
  · exact Option.some.inj h ▸ ⟨trivial, rfl⟩
  · exact absurd h (by simp)

theorem isLiteral_of_test (test : Test) (h : isClientOperator test.op = false) :
    test.value.IsLiteral ∧ test.value.isShowable = true := by
  cases test with
  | binary sign value => exact isLiteral_of_valueOf? value.value_eq
  | _ => exact absurd h (by simp [Test.op, isClientOperator])

/-- The comparisons of a query have fields in lower case, and those that a server can make
have one literal. -/
theorem comparison_of_derivation {s : Symbol} (d : Derivation s) {field : String}
    {op : Operator} {value : Value} (h : .comparison field op value ∈ conjuncts d.tree) :
    (∃ name, field = Text.lower name) ∧
      (isClientOperator op = false → value.IsLiteral ∧ value.isShowable = true) := by
  induction d with
  | disjunct only ih => exact ih h
  | conjunct only ih => exact ih h
  | bare only ih => exact ih h
  | or front word last => exact absurd (List.mem_singleton.1 h) (by simp)
  | and front word last ihf ihl => exact (List.mem_append.1 h).elim ihf ihl
  | not word operand => exact absurd (List.mem_singleton.1 h) (by simp)
  | group opening inner closing ih => exact ih h
  | comparison field test =>
      obtain ⟨rfl, rfl, rfl⟩ := Expr.comparison.inj (List.mem_singleton.1 h)
      exact ⟨⟨_, rfl⟩, isLiteral_of_test test⟩

theorem isEmptyQuery_of_derivation {s : Symbol} (d : Derivation s) :
    isEmptyQuery d.tree = false := by
  induction d with
  | disjunct only ih => exact ih
  | conjunct only ih => exact ih
  | bare only ih => exact ih
  | or front word last => rfl
  | and front word last => rfl
  | not word operand => rfl
  | group opening inner closing =>
      have hinner := Query.Grammar.tree_ne_absent inner
      rw [Derivation.tree]
      cases hi : inner.tree with
      | absent => exact absurd hi hinner
      | _ => rfl
  | comparison field test => rfl

variable {c : Capabilities} {tokens : List Token}

theorem derivation_of_tree (accepted : (parseTokens tokens).error = none) :
    ∃ d : Derivation .disjunction, (parseTokens tokens).tree = d.tree := by
  obtain ⟨d, stop, rest, hs, rfl⟩ := Query.derivation_of_accepted accepted
  exact ⟨d, by rw [Query.parseTokens_derivation d stop hs rest]; rfl⟩

theorem literal_of_accepted (accepted : (parseTokens tokens).error = none) :
    ∀ part ∈ conjuncts (parseTokens tokens).tree, IsLiteralPart part := by
  obtain ⟨d, hd⟩ := derivation_of_tree accepted
  rw [hd]
  intro part hpart
  cases part with
  | comparison field op value => exact fun hop => ((comparison_of_derivation d hpart).2 hop).1
  | _ => trivial

/-- A query that was read compiles without errors: its filter can be shown. -/
theorem errors_of_accepted (c : Capabilities) (accepted : (parseTokens tokens).error = none) :
    (compile c (parseTokens tokens).tree).errors = [] := by
  obtain ⟨d, hd⟩ := derivation_of_tree accepted
  rw [hd]
  have hshown : Value.showableEntries (Walk.start.visit c d.tree).2.filter = true :=
    showableEntries_visit fun _ _ _ hpart hop => ((comparison_of_derivation d hpart).2 hop).2
  rw [compile_of_not_empty c (isEmptyQuery_of_derivation d), Walk.result, if_pos hshown]
  cases (Walk.start.visit c d.tree).1 <;> rfl

theorem gathered_of_accepted (accepted : (parseTokens tokens).error = none)
    (server : (compile c (parseTokens tokens).tree).requiresClient = false) :
    Gathered c (conjuncts (parseTokens tokens).tree)
      (compile c (parseTokens tokens).tree).serverFilter := by
  have hlit := literal_of_accepted accepted
  have herrors := errors_of_accepted c accepted
  obtain ⟨d, hd⟩ := derivation_of_tree accepted
  rw [hd] at server hlit herrors ⊢
  exact gathered_of_server hlit (isEmptyQuery_of_derivation d) herrors server

/-! ## The reading of a filter -/

/-- No parameter stands for two comparisons of fields in lower case. -/
def Unambiguous (c : Capabilities) : Prop :=
  ∀ name name' op op' key, c.Sends (Text.lower name) op key → c.Sends (Text.lower name') op' key →
    Text.lower name = Text.lower name' ∧ op = op'

def Capabilities.rows (c : Capabilities) : List (String × Operator × String) :=
  c.filters.flatMap fun entry => entry.2.map fun column => (entry.1, column)

theorem Capabilities.Sends.mem_rows {field key : String} {op : Operator}
    (h : c.Sends field op key) : (field, op, key) ∈ c.rows := by
  obtain ⟨operators, hf, ho⟩ := Option.bind_eq_some_iff.1 h.2
  refine List.mem_flatMap.2 ⟨(field, operators), Entries.mem_of_get? hf, ?_⟩
  exact List.mem_map.2 ⟨(op, key), Entries.mem_of_get? ho, rfl⟩

theorem unambiguous_of_rows
    (h : ∀ r ∈ c.rows, ∀ r' ∈ c.rows, r.2.2 = r'.2.2 → r.1 = r'.1 ∧ r.2.1 = r'.2.1) :
    Unambiguous c := by
  intro name name' op op' key hs hs'
  exact h _ hs.mem_rows _ hs'.mem_rows rfl

/-- A record satisfies an entry of a filter that is read as the comparison its parameter
stands for. -/
def Satisfies (c : Capabilities) (record : Entries String Value) (entry : String × Value) :
    Prop :=
  ∃ name op, c.Sends (Text.lower name) op entry.1 ∧
    evaluate (.comparison (Text.lower name) op (received c entry.1 entry.2)) (.mapping record) =
      true

/-- The entries of a filter have one reading each, and the records that satisfy all of them
are those that the query selects. -/
theorem filter_selects (c : Capabilities) (tokens : List Token) (record : Entries String Value)
    (unambiguous : Unambiguous c) (accepted : (parseTokens tokens).error = none)
    (server : (compile c (parseTokens tokens).tree).requiresClient = false) :
    (∀ entry ∈ (compile c (parseTokens tokens).tree).serverFilter, ∃ name op,
        c.Sends (Text.lower name) op entry.1 ∧
          ∀ name' op', c.Sends (Text.lower name') op' entry.1 →
            Text.lower name' = Text.lower name ∧ op' = op) ∧
      (evaluate (parseTokens tokens).tree (.mapping record) = true ↔
        ∀ entry ∈ (compile c (parseTokens tokens).tree).serverFilter,
          Satisfies c record entry) := by
  have hg := gathered_of_accepted accepted server
  have hlower : ∀ field op value,
      .comparison field op value ∈ conjuncts (parseTokens tokens).tree →
        ∃ name, field = Text.lower name := by
    intro field op value hmem
    obtain ⟨d, hd⟩ := derivation_of_tree accepted
    exact (comparison_of_derivation d (hd ▸ hmem)).1
  generalize (compile c (parseTokens tokens).tree).serverFilter = filter at hg ⊢
  refine ⟨?_, ?_, ?_⟩
  · rintro ⟨key, v⟩ hentry
    obtain ⟨field, op, value, hmem, hsends, -⟩ :=
      hg.origin key v (Entries.get?_of_mem hg.nodup hentry)
    obtain ⟨name, rfl⟩ := hlower field op value hmem
    exact ⟨name, op, hsends, fun name' op' h => unambiguous _ _ _ _ _ h hsends⟩
  · intro heval
    rw [evaluate, selects_eq_all, List.all_eq_true] at heval
    rintro ⟨key, v⟩ hentry
    obtain ⟨field, op, value, hmem, hsends, rfl⟩ :=
      hg.origin key v (Entries.get?_of_mem hg.nodup hentry)
    obtain ⟨name, rfl⟩ := hlower field op value hmem
    refine ⟨name, op, hsends, ?_⟩
    rw [received_sentValue]
    exact heval _ hmem
  · intro hentries
    rw [evaluate, selects_eq_all, List.all_eq_true]
    intro part hpart
    obtain ⟨field, op, value, key, sent, rfl, hsends, hstored, halike⟩ := hg.stored part hpart
    obtain ⟨name, rfl⟩ := hlower field op value hpart
    obtain ⟨name', op', hsends', heval⟩ := hentries _ (Entries.mem_of_get? hstored)
    obtain ⟨hname, rfl⟩ := unambiguous _ _ _ _ _ hsends' hsends
    rw [received_sentValue, hname] at heval
    rw [selects, halike.holds_eq hsends.1]
    exact heval

def tagServer : Capabilities :=
  { filters := [("priority", [(.eq, "priority"), (.gt, "above")]), ("tags", [(.eq, "tags")])]
    listValued := ["tags"] }

theorem unambiguous_tagServer : Unambiguous tagServer :=
  unambiguous_of_rows (by decide)

/-- The tokens of `priority > 1 AND (priority > 1.0 AND tags = 'x')`. -/
def tagTokens : List Token :=
  [⟨.identifier, "priority", 0, 8⟩, ⟨.greaterThan, ">", 9, 1⟩, ⟨.number, "1", 11, 1⟩,
    ⟨.and, "AND", 13, 3⟩, ⟨.leftParen, "(", 17, 1⟩, ⟨.identifier, "priority", 18, 8⟩,
    ⟨.greaterThan, ">", 27, 1⟩, ⟨.number, "1.0", 29, 3⟩, ⟨.and, "AND", 33, 3⟩,
    ⟨.identifier, "tags", 37, 4⟩, ⟨.equals, "=", 42, 1⟩, ⟨.string, "x", 44, 3⟩,
    ⟨.rightParen, ")", 47, 1⟩, .atEnd 48]

theorem tagTokens_satisfied :
    evaluate (parseTokens tagTokens).tree
        (.mapping [("priority", .int 2), ("tags", .list [.text "x"])]) = true ∧
      ∀ entry ∈ (compile tagServer (parseTokens tagTokens).tree).serverFilter,
        Satisfies tagServer [("priority", .int 2), ("tags", .list [.text "x"])] entry := by
  have heval : evaluate (parseTokens tagTokens).tree
      (.mapping [("priority", .int 2), ("tags", .list [.text "x"])]) = true := by
    decide +kernel
  exact ⟨heval, (filter_selects tagServer tagTokens _ unambiguous_tagServer rfl
    (by decide +kernel)).2.1 heval⟩

end TaskQuery.Server
