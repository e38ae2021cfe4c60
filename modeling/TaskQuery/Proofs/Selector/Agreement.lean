import TaskQuery.Proofs.Query.FieldCheck
import TaskQuery.Proofs.Server.Filter
import TaskQuery.Proofs.Server.Outcome
import TaskQuery.Proofs.Settings.Acceptance
/-!
# The entry points agree

A text can be checked, read, compiled, or compiled as a selector. All four see the same
errors: the compilation passes on those of reading and finds none of its own, so a selector
is refused exactly if the text cannot be read.
-/

namespace TaskQuery.Selector

open Query Server

variable {s : Settings} {text : String} {c : Capabilities}

def Parsed.messages (parsed : Parsed) : List String :=
  parsed.errors.map QueryError.message

/-- What the entry points make of one reading. -/
structure Agree (parsed : Parsed) (compiled : Compilation)
    (strict : Except SelectorError Compilation) : Prop where
  /-- No text is read as the empty query. -/
  tree : parsed.errors = [] → isEmptyQuery parsed.tree = false
  errors : compiled.errors = parsed.messages
  failed : parsed.errors ≠ [] → compiled = { errors := parsed.messages }
  refused : parsed.errors ≠ [] → ∃ refusal, strict = .error refusal ∧
    refusal.errors = parsed.messages ∧
      refusal.message = "DartQL parse errors: " ++ "; ".intercalate parsed.messages
  used : parsed.errors = [] → strict = .ok compiled
  /-- The conversion of a tree that was read does not fail. -/
  converted : ∀ errors, strict ≠ .error (.conversion errors)

theorem isEmptyQuery_of_parse (h : (parse s text).errors = []) :
    isEmptyQuery (parse s text).tree = false := by
  obtain ⟨tokens, -, accepted, hparse⟩ := parse_eq_ofOutcome s h
  obtain ⟨d, htree⟩ := derivation_of_tree accepted
  have hd : (parse s text).tree = d.tree := by
    rw [hparse]
    exact htree
  rw [hd]
  exact isEmptyQuery_of_derivation d

theorem compile_errors_of_parse (h : (parse s text).errors = []) :
    (Server.compile c (parse s text).tree).errors = [] := by
  obtain ⟨tokens, -, accepted, hparse⟩ := parse_eq_ofOutcome s h
  rw [hparse]
  exact errors_of_accepted c accepted

theorem compile_of_accepted (hc : s.capabilities = .ok c) (h : (parse s text).errors = []) :
    compile s text = .ok (Server.compile c (parse s text).tree) := by
  rw [compile_of_no_errors s h, hc]
  rfl

theorem compileStrict_of_accepted (hc : s.capabilities = .ok c)
    (h : (parse s text).errors = []) :
    compileStrict s text = .ok (.ok (Server.compile c (parse s text).tree)) := by
  have hconverted : (Server.compile c (parse s text).tree).errors.isEmpty = true :=
    List.isEmpty_iff.2 (compile_errors_of_parse h)
  unfold compileStrict
  rw [hc]
  -- The reading has no errors, and neither has the compilation of its tree.
  refine (if_pos (List.isEmpty_iff.2 h)).trans ?_
  exact if_pos hconverted

theorem compileStrict_of_rejected (h : (parse s text).errors ≠ []) :
    compileStrict s text = .ok (.error (.reading (parse s text).messages)) := by
  unfold compileStrict
  exact if_neg (by rwa [List.isEmpty_iff])

theorem agree_of_accepted (h : (parse s text).errors = []) :
    Agree (parse s text) (Server.compile c (parse s text).tree)
      (.ok (Server.compile c (parse s text).tree)) where
  tree := isEmptyQuery_of_parse
  errors := by
    unfold Parsed.messages
    rw [compile_errors_of_parse h, h]
    rfl
  failed herror := absurd h herror
  refused herror := absurd h herror
  used _ := rfl
  converted _ := nofun

theorem agree_of_rejected (h : (parse s text).errors ≠ []) :
    Agree (parse s text) { errors := (parse s text).messages }
      (.error (.reading (parse s text).messages)) where
  tree hnone := absurd hnone h
  errors := rfl
  failed _ := rfl
  refused _ := ⟨_, rfl, rfl, rfl⟩
  used hnone := absurd hnone h
  converted _ := nofun

/-- Under settings that were accepted no text makes an entry point fail. What the check of
a text reports is what reading it reports, and the compilation and the selector see the
errors of the reading: if there are none the selector is the compilation, and otherwise it
is refused with these errors. -/
theorem entry_points_agree (s : Settings) (accepted : s.Accepted) (text : String) :
    ∃ (c : Capabilities) (compiled : Compilation) (strict : Except SelectorError Compilation),
      s.capabilities = .ok c ∧
      compile s text = .ok compiled ∧
      compileStrict s text = .ok strict ∧
      Agree (parse s text) compiled strict ∧
      ((validate s text).errors ≠ [] → (parse s text).errors = (validate s text).errors) := by
  obtain ⟨c, hc⟩ := accepted.capabilities
  have hvalidate : (validate s text).errors ≠ [] →
      (parse s text).errors = (validate s text).errors :=
    fun h => (parse_of_validate_errors s h).1
  by_cases h : (parse s text).errors = []
  · exact ⟨c, _, _, hc, compile_of_accepted hc h, compileStrict_of_accepted hc h,
      agree_of_accepted h, hvalidate⟩
  · exact ⟨c, _, _, hc, compile_of_errors s h, compileStrict_of_rejected h,
      agree_of_rejected h, hvalidate⟩

/-- Settings with one field, whose filter table names an operator in lower case. -/
def labelled : List (String × Value) :=
  [("valid_fields", .list [.text " Label "]),
    ("server_filters", .mapping [("label", .mapping [("in", .text "labels")])])]

def labelledSettings : Settings :=
  { validFields := ["label"], serverFilters := [("label", [("in", "labels")])] }

theorem labelled_accepted : Settings.read labelled [] = .ok labelledSettings := by
  rfl

theorem labelled_agree :
    labelledSettings.Accepted ∧ ∃ c compiled strict,
      labelledSettings.capabilities = .ok c ∧
      compile labelledSettings "label IN ('a'" = .ok compiled ∧
      compileStrict labelledSettings "label IN ('a'" = .ok strict ∧
      Agree (parse labelledSettings "label IN ('a'") compiled strict := by
  have accepted : labelledSettings.Accepted := .inr ⟨labelled, [], labelled_accepted⟩
  obtain ⟨c, compiled, strict, hc, hcompiled, hstrict, hagree, -⟩ :=
    entry_points_agree labelledSettings accepted "label IN ('a'"
  exact ⟨accepted, c, compiled, strict, hc, hcompiled, hstrict, hagree⟩

end TaskQuery.Selector
