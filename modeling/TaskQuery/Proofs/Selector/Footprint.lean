import TaskQuery.Proofs.Selector.Agreement
/-!
# What a query looks at

A query reports the fields that it names. On a record it looks at these fields and at nothing
else, so two records that agree on them are selected alike. That holds for every text, also
for one with tokens left over behind a query, whose tree is kept.
-/

namespace TaskQuery.Query

variable {a b : Entries String Value} {fields : List String} {field : String}

/-- Two records that have the same values in some fields. A field that is missing counts as
null. -/
def AgreeOn (fields : List String) (a b : Entries String Value) : Prop :=
  ∀ field ∈ fields, fieldOf a field = fieldOf b field

theorem AgreeOn.mono {others : List String} (h : AgreeOn fields a b)
    (hsub : ∀ field ∈ others, field ∈ fields) : AgreeOn others a b :=
  fun field hfield => h field (hsub field hfield)

/-- A tree looks only at its own fields. -/
theorem selects_congr {query : Expr} (h : AgreeOn query.fields a b) :
    selects a query = selects b query := by
  induction query with
  | absent => rfl
  | comparison field op value =>
      have hfield : fieldOf a field = fieldOf b field := h field (List.mem_singleton.2 rfl)
      rw [selects, selects, hfield]
  | logical connective left right ihl ihr =>
      have hleft := ihl (h.mono fun field => List.mem_append_left right.fields)
      have hright := ihr (h.mono fun field => List.mem_append_right left.fields)
      cases connective <;> simp only [selects, hleft, hright]
  | group inner ih => exact ih h

namespace Parse

/-- A run from the start notes all fields of the tree that it returns. -/
theorem run_fields (tokens : List Token) (h : field ∈ (run .start tokens).tree.fields) :
    field ∈ (run .start tokens).fields := by
  have hempty : (run .start tokens).tree ≠ .empty := by
    intro htree
    rw [htree] at h
    exact List.not_mem_nil h
  rcases run_cases .start tokens with ⟨htree, -⟩ | ⟨taken, t, rest, last, -, ha, hstop⟩
  · exact absurd htree hempty
  · rcases step_stops hstop with hrefuses | hcompletes
    · exact absurd hrefuses.tree hempty
    · obtain ⟨d, rfl, htree⟩ := derivation_of_completes (advance?_holds holds_start ha) hcompletes
      rw [hcompletes.fields, advance?_fields ha, mem_foldl_noted, d.fieldNames_tokens, ← htree]
      exact Or.inr h

end Parse

theorem parseTokens_fields (tokens : List Token)
    (h : field ∈ (parseTokens tokens).tree.fields) : field ∈ (parseTokens tokens).fields := by
  cases tokens with
  | nil => exact h
  | cons first rest =>
      by_cases hk : first.kind = .endOfInput
      · simp [parseTokens, hk, Expr.empty, Expr.fields] at h
      · rw [parseTokens_eq_run hk] at h ⊢
        exact Parse.run_fields _ h

end TaskQuery.Query

namespace TaskQuery.Server

open Query (Expr evaluate)

def Compilation.Keeps (c : Compilation) (record : Value) : Prop :=
  c.apply [record] = [record]

variable {query : Expr} {r : Compilation} {record other : Value}

theorem keeps_of_no_predicate (h : r.clientQuery = none) (record : Value) : r.Keeps record := by
  rw [Compilation.Keeps, Compilation.apply, h]

theorem LeftToClient.keeps_iff (h : LeftToClient query r) :
    r.Keeps record ↔ evaluate query record = true := by
  rw [Compilation.Keeps, h.keeps]
  simp

theorem keeps_congr (c : Capabilities) (h : evaluate query record = evaluate query other) :
    (compile c query).Keeps record ↔ (compile c query).Keeps other := by
  cases hclient : (compile c query).requiresClient with
  | true =>
      have left := leftToClient_of_requiresClient hclient
      rw [left.keeps_iff, left.keeps_iff, h]
  | false =>
      have hnone := Option.not_isSome_iff_eq_none.1 (Bool.eq_false_iff.1 hclient)
      exact iff_of_true (keeps_of_no_predicate hnone record) (keeps_of_no_predicate hnone other)

end TaskQuery.Server

namespace TaskQuery.Selector

open Query Server

variable {s : Settings} {text : String} {a b : Entries String Value} {field : String}

/-- The fields of the tree are reported, whatever errors are. -/
theorem parse_tree_fields (h : field ∈ (parse s text).tree.fields) :
    field ∈ (parse s text).fields := by
  cases hread : tokenize text with
  | error e => simp [parse, hread, Expr.empty, Expr.fields] at h
  | ok tokens =>
      by_cases herrors : s.vocabulary.errors tokens = []
      · rw [parse_of_no_errors s hread herrors] at h ⊢
        exact parseTokens_fields tokens h
      · rw [parse_of_errors s hread herrors] at h
        simp [Expr.empty, Expr.fields] at h

theorem keeps_of_compile {compiled : Compilation} (hc : compile s text = .ok compiled)
    (h : evaluate (parse s text).tree (.mapping a) = evaluate (parse s text).tree (.mapping b)) :
    compiled.Keeps (.mapping a) ↔ compiled.Keeps (.mapping b) := by
  by_cases herrors : (parse s text).errors = []
  · rw [compile_of_no_errors s herrors] at hc
    obtain ⟨c, -, hcompiled⟩ := bind_ok_iff.1 hc
    obtain rfl := Except.ok.inj hcompiled
    exact keeps_congr c h
  · rw [compile_of_errors s herrors] at hc
    obtain rfl := Except.ok.inj hc
    exact iff_of_true (keeps_of_no_predicate rfl _) (keeps_of_no_predicate rfl _)

theorem exists_compile (accepted : s.Accepted) (text : String) :
    ∃ compiled, compile s text = .ok compiled := by
  obtain ⟨c, hc⟩ := accepted.capabilities
  by_cases herrors : (parse s text).errors = []
  · exact ⟨_, compile_of_accepted hc herrors⟩
  · exact ⟨_, compile_of_errors s herrors⟩

/-- A query looks only at the fields that it reports. For every text, with whatever errors,
two records that agree on the reported fields are selected alike by the tree, and so by the
predicate that evaluates it, and the compilation keeps both or neither of them. Under
accepted settings there is such a compilation. -/
theorem looks_at_reported_fields (s : Settings) (text : String) (a b : Entries String Value)
    (agree : AgreeOn (parse s text).fields a b) :
    evaluate (parse s text).tree (.mapping a) = evaluate (parse s text).tree (.mapping b) ∧
      (∀ compiled, compile s text = .ok compiled →
        (compiled.Keeps (.mapping a) ↔ compiled.Keeps (.mapping b))) ∧
      (s.Accepted → ∃ compiled, compile s text = .ok compiled) := by
  have hselects : evaluate (parse s text).tree (.mapping a) =
      evaluate (parse s text).tree (.mapping b) :=
    selects_congr (agree.mono fun _ => parse_tree_fields)
  exact ⟨hselects, fun compiled hc => keeps_of_compile hc hselects,
    fun accepted => exists_compile accepted text⟩

def namedTask : Entries String Value :=
  [("title", .text "Fix login"), ("priority", .int 4)]

def taggedTask : Entries String Value :=
  [("assignee", .null), ("tags", .list [.text "bug"]), ("priority", .int 4)]

theorem looks_at_reported_fields_leftover :
    AgreeOn (parse .standard "(Priority > 3 OR NOT assignee IS NULL) (").fields
      namedTask taggedTask ∧
    evaluate (parse .standard "(Priority > 3 OR NOT assignee IS NULL) (").tree
      (.mapping namedTask) =
    evaluate (parse .standard "(Priority > 3 OR NOT assignee IS NULL) (").tree
      (.mapping taggedTask) := by
  have hfields : (parse .standard "(Priority > 3 OR NOT assignee IS NULL) (").fields =
      ["priority", "assignee"] := by
    decide +kernel
  have hagree : AgreeOn (parse .standard "(Priority > 3 OR NOT assignee IS NULL) (").fields
      namedTask taggedTask := by
    rw [hfields]
    exact List.forall_mem_cons.2 ⟨rfl, List.forall_mem_singleton.2 rfl⟩
  exact ⟨hagree, (looks_at_reported_fields .standard _ namedTask taggedTask hagree).1⟩

end TaskQuery.Selector
