import TaskQuery.Command.Run
import TaskQuery.Proofs.Console.Table
import TaskQuery.Proofs.Json.OneLine
import TaskQuery.Proofs.Selector.Footprint
/-!
# Plain output

Of what the program prints with markup, the names of fields and all warnings are plain texts. Only
the messages of errors and the cells of the table can hold what the user wrote.
-/

namespace TaskQuery

open Query Console Server

variable {s : Settings} {text field : String} {tokens : List Token} {op : Operator} {tree : Expr}
  {w : Walk} {c : Capabilities} {reason : Reason} {value : Value}

/-! ## Names of fields -/

namespace Query

theorem Parse.mem_fieldNames_of_run (h : field ∈ (Parse.run .start tokens).fields) :
    field ∈ Grammar.fieldNames tokens := by
  have hmem {taken : List Token} {last : Parse.State}
      (ha : Parse.advance? .start taken = some last) (hlast : field ∈ last.fields) :
      field ∈ Grammar.fieldNames taken := by
    rw [Parse.advance?_fields ha, mem_foldl_noted] at hlast
    exact hlast.resolve_left List.not_mem_nil
  cases ha : Parse.advance? .start tokens with
  | some last =>
      have hrun := Parse.run_append ha []
      rw [List.append_nil] at hrun
      rw [hrun] at h
      exact hmem ha h
  | none =>
      obtain ⟨taken, t, rest, last, rfl, htaken, hstop⟩ := Parse.run_stops ha
      rw [Grammar.fieldNames_append]
      refine List.mem_append_left _ (hmem htaken ?_)
      rcases Parse.step_stops hstop with hrefuses | hcompletes
      · rwa [hrefuses.fields] at h
      · rwa [hcompletes.fields] at h

theorem mem_fieldNames_of_parseTokens (h : field ∈ (parseTokens tokens).fields) :
    field ∈ Grammar.fieldNames tokens := by
  cases tokens with
  | nil => exact absurd h List.not_mem_nil
  | cons first rest =>
      by_cases hk : first.kind = .endOfInput
      · simp [parseTokens, hk] at h
      · rw [parseTokens_eq_run hk] at h
        obtain ⟨t, ht, hkind, hname⟩ :=
          Grammar.mem_fieldNames.1 (Parse.mem_fieldNames_of_run h)
        -- Behind the tokens only the last of them comes again.
        refine Grammar.mem_fieldNames.2 ⟨t, ?_, hkind, hname⟩
        rcases List.mem_append.1 ht with ht | ht
        · exact ht
        · rw [List.eq_of_mem_replicate ht]
          exact List.getLastD_mem_cons

theorem IsFieldName.harmless (h : IsFieldName field) : field.toList.all isHarmless = true := by
  obtain ⟨first, rest, hlist, hstart, hrest⟩ := h.shape
  have hname : ∀ c ∈ field.toList, continuesName c = true := by
    rw [hlist]
    exact List.forall_mem_cons.2 ⟨by rw [continuesName, hstart]; rfl, hrest⟩
  have hall : ∀ n < 0x80, continuesName (Char.ofNat n) = true →
      isHarmless (Char.ofNat n) = true := by decide
  refine List.all_eq_true.2 fun c hc => ?_
  have hascii := toNat_lt_of_continuesWord (continuesWord_of_continuesName (hname c hc))
  exact ascii_induction (p := fun c => continuesName c = true → isHarmless c = true) hall hascii
    (hname c hc)

theorem Operator.harmless (op : Operator) : op.symbol.toList.all isHarmless = true := by
  cases op <;> decide

end Query

/-- Whatever errors a query has, its fields are names of fields. -/
theorem Selector.isFieldName_of_mem_fields (h : field ∈ (Selector.parse s text).fields) :
    IsFieldName field := by
  cases hread : tokenize text with
  | error e => simp [Selector.parse, hread] at h
  | ok tokens =>
      have hnamed : field ∈ Grammar.fieldNames tokens := by
        by_cases herrors : s.vocabulary.errors tokens = []
        · rw [Selector.parse_of_no_errors s hread herrors] at h
          exact mem_fieldNames_of_parseTokens h
        · rw [Selector.parse_of_errors s hread herrors] at h
          exact mem_namedFields.1 h
      obtain ⟨t, ht, hkind, rfl⟩ := Grammar.mem_fieldNames.1 hnamed
      obtain ⟨inner, rfl, htiling⟩ := tiling_of_tokenize hread
      rcases List.mem_append.1 ht with hinner | hend
      · obtain ⟨first, rest, hlist, hstart, hrest, hword⟩ :=
          (htiling.fits t hinner).written.of_identifier hkind
        rw [hlist] at hword
        have hname := isFieldName_lower hstart hrest hword
        rwa [← hlist, String.ofList_toList] at hname
      · rw [List.mem_singleton.1 hend] at hkind
        cases hkind

/-! ## Warnings -/

namespace Server

def Reason.field? : Reason → Option String
  | .unsupportedField field | .rangeOperator _ field | .unsupportedOperator _ field
  | .nullComparison field | .conflict field => some field
  | .disjunction | .negation | .clientOperator _ => none

theorem Reason.plain_message (h : ∀ field ∈ reason.field?, IsFieldName field) :
    Plain reason.message.toList := by
  refine .of_harmless ?_
  cases reason with
  | disjunction => exact harmless_ofList (by decide)
  | negation => exact harmless_ofList (by decide)
  | clientOperator op => exact harmless_append op.harmless (harmless_ofList (by decide))
  | unsupportedField field =>
      exact harmless_append (harmless_append (by decide) (h field rfl).harmless)
        (harmless_ofList (by decide))
  | nullComparison field =>
      exact harmless_append (harmless_append (by decide) (h field rfl).harmless)
        (harmless_ofList (by decide))
  | conflict field =>
      exact harmless_append (harmless_append (by decide) (h field rfl).harmless)
        (harmless_ofList (by decide))
  | rangeOperator op field =>
      exact harmless_append (harmless_append (harmless_append
        (harmless_append (by decide) op.harmless) (by decide)) (h field rfl).harmless)
        (harmless_ofList (by decide))
  | unsupportedOperator op field =>
      exact harmless_append (harmless_append (harmless_append
        (harmless_append (by decide) op.harmless) (harmless_ofList (by decide)))
        (h field rfl).harmless) (by decide)

namespace Walk

theorem mem_reasons_note {noted : Reason} (h : reason ∈ (w.note noted).reasons) :
    reason ∈ w.reasons ∨ reason = noted :=
  (List.mem_append.1 h).imp_right List.mem_singleton.1

theorem quotes_visitComparison (h : reason ∈ (w.visitComparison c field op value).2.reasons) :
    reason ∈ w.reasons ∨ ∀ quoted ∈ reason.field?, quoted = field := by
  have hquotes {noted : Reason} (hmem : reason ∈ (w.note noted).reasons)
      (hnoted : ∀ quoted ∈ noted.field?, quoted = field) :
      reason ∈ w.reasons ∨ ∀ quoted ∈ reason.field?, quoted = field := by
    rcases mem_reasons_note hmem with hbefore | rfl
    · exact .inl hbefore
    · exact .inr hnoted
  have hself : ∀ quoted ∈ some field, quoted = field := fun quoted hq => (Option.some.inj hq).symm
  rw [visitComparison_eq] at h
  have hasked := asked_requestOf c field op value
  generalize requestOf c field op value = request at h hasked
  cases hasked with
  | request supported server parameter given =>
      dsimp only at h
      split at h
      · exact .inl h
      · exact hquotes h hself
  | clientOperator client => exact hquotes h nofun
  | _ => exact hquotes h hself

theorem quotes_visit (h : reason ∈ (w.visit c tree).2.reasons) :
    reason ∈ w.reasons ∨ ∀ quoted ∈ reason.field?, quoted ∈ tree.fields := by
  induction tree generalizing w with
  | absent => exact .inl h
  | comparison field op value =>
      refine (quotes_visitComparison h).imp_right fun hquoted quoted hq => ?_
      exact List.mem_singleton.2 (hquoted quoted hq)
  | logical connective left right ihl ihr =>
      cases connective with
      | and =>
          rcases ihr h with hleft | hright
          · refine (ihl hleft).imp_right fun hquoted quoted hq => ?_
            exact List.mem_append_left _ (hquoted quoted hq)
          · exact .inr fun quoted hq => List.mem_append_right _ (hright quoted hq)
      | or =>
          refine (mem_reasons_note h).imp_right ?_
          rintro rfl
          exact nofun
      | not =>
          refine (mem_reasons_note h).imp_right ?_
          rintro rfl
          exact nofun
  | group inner ih => exact ih h

end Walk

end Server

/-- A query has warnings only if its tree is left to the client. -/
theorem Selector.warnings_cases {compiled : Compilation}
    (h : Selector.compile s text = .ok compiled) :
    compiled.warnings = [] ∨ ∃ c, LeftToClient (Selector.parse s text).tree compiled ∧
      compiled.warnings = clientWarning ::
        (Walk.start.visit c (Selector.parse s text).tree).2.reasons.map Reason.message := by
  by_cases herrors : (Selector.parse s text).errors = []
  · rw [compile_of_no_errors s herrors] at h
    obtain ⟨c, -, hc⟩ := bind_ok_iff.1 h
    obtain rfl := Except.ok.inj hc
    have hdecided := decided_outcomeOf c (Selector.parse s text).tree
    generalize outcomeOf c (Selector.parse s text).tree = outcome at hdecided
    have hdescribes := hdecided.describes
    cases outcome with
    | client => exact .inr ⟨c, hdescribes, warnings_of_client hdecided⟩
    | _ => exact .inl hdescribes.warnings
  · rw [compile_of_errors s herrors] at h
    obtain rfl := Except.ok.inj h
    exact .inl rfl

/-- Whatever a query is, all warnings of what it compiles to are plain. -/
theorem Selector.plain_warnings {compiled : Compilation}
    (h : Selector.compile s text = .ok compiled) :
    ∀ warning ∈ compiled.warnings, Plain warning.toList := by
  rcases Selector.warnings_cases h with hnone | ⟨c, -, hsome⟩
  · rw [hnone]
    exact fun warning hw => absurd hw List.not_mem_nil
  · rw [hsome]
    refine List.forall_mem_cons.2 ⟨.of_harmless ?_, fun warning hw => ?_⟩
    · exact harmless_append (harmless_ofList (by decide)) (harmless_ofList (by decide))
    obtain ⟨reason, hreason, rfl⟩ := List.mem_map.1 hw
    refine reason.plain_message fun field hfield => ?_
    rcases Walk.quotes_visit hreason with hstart | hquoted
    · exact absurd hstart List.not_mem_nil
    · exact isFieldName_of_mem_fields (parse_tree_fields (hquoted field hfield))

namespace Command

/-! ## The heading and the cells -/

theorem harmless_intercalate {texts : List String}
    (h : ∀ t ∈ texts, t.toList.all isHarmless = true) :
    (", ".intercalate texts).toList.all isHarmless = true := by
  induction texts with
  | nil => decide
  | cons t rest ih =>
      obtain ⟨ht, hrest⟩ := List.forall_mem_cons.1 h
      cases rest with
      | nil => rwa [String.intercalate_singleton]
      | cons next others =>
          rw [String.intercalate_cons_cons]
          exact harmless_append (harmless_append ht (by decide)) (ih hrest)

theorem plain_heading {fields : List String} (h : ∀ field ∈ fields, IsFieldName field) :
    Plain ("Fields: " ++ ", ".intercalate (sortedTexts fields)).toList := by
  have hnames : (", ".intercalate (sortedTexts fields)).toList.all isHarmless = true :=
    harmless_intercalate fun field hfield => (h field (List.mem_mergeSort.1 hfield)).harmless
  have hshown : "Fields: " ++ ", ".intercalate (sortedTexts fields) =
      "Fields" ++ ": " ++ ", ".intercalate (sortedTexts fields) := by
    rw [← String.toList_inj]
    simp [String.toList_append]
  rw [hshown]
  exact .labelled (by decide) (.of_harmless hnames)

theorem plainCell_write (h : Plain (Json.write .line value).toList) :
    PlainCell (Json.write .line value).toList := by
  rw [Json.write, String.toList_ofList] at h ⊢
  refine ⟨h, fun c hc => ?_, Json.isBlank_getLast_valueText .line 0 value⟩
  exact Json.endsLine_of_isPrinted
    (List.all_eq_true.1 (Json.all_isPrinted_valueText value 0) c hc)

end Command

end TaskQuery
