import TaskQuery.Proofs.Command.PlainErrors
import TaskQuery.Proofs.Command.Request
/-!
# Text output

Without `--json` a query is shown in lines and in a table, all of which are read as markup. On a
console that is wide enough, all warnings, the plain errors and the plain rows of the table are
shown as they are. A tag in an error or in a cell is not shown, and a closing tag stops the run.
-/

namespace TaskQuery.Command

open Query Console Server Selector

variable {s : Settings} {query title style printed : String}
  {lines messages errors : List String} {columns : Nat} {filter : Entries String Value}
  {compiled : Compilation}

/-! ## Lines -/

theorem printAll_starts (columns : Nat) (printed : String) (lines : List String) :
    printed.toList <+: (printAll columns printed lines).1.toList := by
  induction lines generalizing printed with
  | nil => exact List.prefix_rfl
  | cons line rest ih =>
      rw [printAll]
      split
      · rename_i shown hshown
        refine List.IsPrefix.trans ?_ (ih _)
        rw [String.toList_append, String.toList_append, List.append_assoc]
        exact List.prefix_append _ _
      · exact List.prefix_rfl

theorem printAll_shows (h : (printAll columns printed lines).2 = none) :
    ∀ line ∈ lines, ∃ shown, render columns line = .ok shown ∧
      shown.toList <:+: (printAll columns printed lines).1.toList := by
  induction lines generalizing printed with
  | nil => exact fun line hline => absurd hline List.not_mem_nil
  | cons line rest ih =>
      rw [printAll] at h ⊢
      split at h
      · rename_i shown hshown
        refine List.forall_mem_cons.2 ⟨⟨shown, hshown, ?_⟩, ih h⟩
        refine List.IsInfix.trans ?_ (printAll_starts columns _ rest).isInfix
        rw [String.toList_append, String.toList_append]
        exact List.infix_append _ _ _
      · cases h

theorem printAll_of_ok (h : ∀ line ∈ lines, ∃ shown, render columns line = .ok shown) :
    (printAll columns printed lines).2 = none := by
  induction lines generalizing printed with
  | nil => rfl
  | cons line rest ih =>
      obtain ⟨⟨shown, hshown⟩, hrest⟩ := List.forall_mem_cons.1 h
      rw [printAll, hshown]
      exact ih hrest

structure PrintsLines (columns : Nat) (printed : String) (lines : List String) (failed : Bool)
    (ending : Ending) : Prop where
  stderr : ending.stderr = ""
  exitCode : ending.exitCode = if failed = false ∧ ending.crash = none then 0 else 1
  crash : (∀ line ∈ lines, ∃ shown, render columns line = .ok shown) → ending.crash = none
  before : printed.toList <+: ending.stdout.toList
  lines : ending.crash = none → ∀ line ∈ lines, ∃ shown, render columns line = .ok shown ∧
    shown.toList <:+: ending.stdout.toList

theorem endingAfterLines_prints (columns : Nat) (printed : String) (lines : List String)
    (failed : Bool) : ∃ ending, endingAfterLines columns printed lines failed = .finished ending ∧
      PrintsLines columns printed lines failed ending := by
  have hfront := printAll_starts columns printed lines
  unfold endingAfterLines
  cases hall : printAll columns printed lines with
  | mk all fault =>
      rw [hall] at hfront
      cases fault with
      | none =>
          have hnone : (printAll columns printed lines).2 = none := by rw [hall]
          have hshows := printAll_shows hnone
          rw [hall] at hshows
          refine ⟨_, rfl, rfl, ?_, fun _ => rfl, hfront, fun _ => hshows⟩
          cases failed <;> rfl
      | some fault =>
          refine ⟨_, rfl, rfl, ?_, fun hok => ?_, hfront, nofun⟩
          · rw [if_neg]
            exact nofun
          · have hnone : (printAll columns printed lines).2 = none := printAll_of_ok hok
            rw [hall] at hnone
            cases hnone

/-! ## Messages -/

theorem exists_enough (texts : List String) :
    ∃ enough, ∀ text ∈ texts, 2 * (text.toList.length + 9) ≤ enough :=
  ⟨_, fun _ htext => (le_foldl_max (texts.map fun text => 2 * (text.toList.length + 9)) 0).2 _
    (List.mem_map_of_mem htext)⟩

structure Heads (title style : String) : Prop where
  named : NamesStyle style.toList
  harmless : title.toList.all isHarmless = true
  short : title.toList.length ≤ 7

theorem heads_error : Heads "error" "red" :=
  ⟨namesStyle_red, by decide, by decide⟩

theorem heads_warning : Heads "warning" "yellow" :=
  ⟨namesStyle_yellow, by decide, by decide⟩

theorem render_titled {message : String} (heads : Heads title style) (h : Plain message.toList)
    (wide : 2 * (message.toList.length + 9) ≤ columns) :
    render columns ("[" ++ style ++ "]" ++ title ++ ":[/" ++ style ++ "] " ++ message) =
      .ok (title ++ ": " ++ message) := by
  have hshort := heads.short
  have hcolon : Plain (title.toList ++ [':']) :=
    .append heads.harmless (Plain.nil.colon fun c hc => nomatch hc)
  have hword : ∀ c ∈ title.toList ++ [':'], c ≠ '[' ∧ c ≠ '\\' := by
    rw [List.forall_mem_append]
    exact ⟨unmarked_of_harmless heads.harmless,
      List.forall_mem_singleton.2 ⟨by decide, by decide⟩⟩
  have hmessage : Plain (' ' :: message.toList) := h.cons (by decide)
  have hline : "[" ++ style ++ "]" ++ title ++ ":[/" ++ style ++ "] " ++ message =
      String.ofList (styledLine style.toList (title.toList ++ [':']) (' ' :: message.toList)) := by
    rw [← String.toList_inj, String.toList_ofList]
    simp [String.toList_append, styledLine]
  have hshown : title ++ ": " ++ message =
      String.ofList (title.toList ++ [':'] ++ ' ' :: message.toList) := by
    rw [← String.toList_inj, String.toList_ofList]
    simp [String.toList_append]
  rw [hline, hshown]
  refine render_styledLine heads.named hcolon hword hmessage ?_
  simp only [List.length_append, List.length_cons, List.length_nil]
  omega

theorem titled_ok (heads : Heads title style) (h : ∀ message ∈ messages, Plain message.toList)
    (wide : ∀ message ∈ messages, 2 * (message.toList.length + 9) ≤ columns) :
    ∀ line ∈ titled title style messages, ∃ shown, render columns line = .ok shown := by
  intro line hline
  obtain ⟨message, hmessage, rfl⟩ := List.mem_map.1 hline
  exact ⟨_, render_titled heads (h message hmessage) (wide message hmessage)⟩

/-- Plain messages stand in the text in which their lines stand. -/
theorem titled_shows {message : String} {out : List Char} (heads : Heads title style)
    (hmem : message ∈ messages) (h : Plain message.toList)
    (wide : 2 * (message.toList.length + 9) ≤ columns)
    (printed : ∀ line ∈ titled title style messages, ∃ shown, render columns line = .ok shown ∧
      shown.toList <:+: out) : message.toList <:+: out := by
  obtain ⟨shown, hshown, hinside⟩ := printed _ (List.mem_map_of_mem hmem)
  rw [render_titled heads h wide] at hshown
  rw [← Except.ok.inj hshown, String.toList_append] at hinside
  exact (List.suffix_append _ _).isInfix.trans hinside

/-! ## Endings -/

/-- What a run without `--json` ends with. All warnings are shown, and the errors and the entries of
the server filter if they are plain. -/
structure PrintsText (ending : Ending) (warnings errors : List String)
    (filter : Entries String Value) : Prop where
  stderr : ending.stderr = ""
  exitCode : ending.exitCode = if errors = [] ∧ ending.crash = none then 0 else 1
  crash : (∀ error ∈ errors, Plain error.toList) →
    (∀ entry ∈ filter, Plain entry.1.toList ∧ Plain (Json.write .line entry.2).toList) →
    ending.crash = none
  warnings : ∀ warning ∈ warnings, warning.toList <:+: ending.stdout.toList
  errors : ending.crash = none → ∀ error ∈ errors, Plain error.toList →
    error.toList <:+: ending.stdout.toList
  entries : ending.crash = none → ∀ entry ∈ filter, PlainCell entry.1.toList →
    Plain (Json.write .line entry.2).toList →
    ShowsRow entry.1.toList (Json.write .line entry.2).toList ending.stdout

theorem PrintsText.refusal {ending : Ending} {warnings : List String}
    (h : PrintsText ending warnings errors []) (refused : errors ≠ [])
    (plain : ∀ error ∈ errors, Plain error.toList) :
    ending.crash = none ∧ ending.exitCode = 1 ∧
      ∀ error ∈ errors, error.toList <:+: ending.stdout.toList := by
  have hcrash := h.crash plain nofun
  refine ⟨hcrash, ?_, fun error herror => h.errors hcrash error herror (plain error herror)⟩
  rw [h.exitCode]
  exact if_neg fun hboth => refused hboth.1

theorem exitCode_eq {ending : Ending}
    (h : ending.exitCode = if (!errors.isEmpty) = false ∧ ending.crash = none then 0 else 1) :
    ending.exitCode = if errors = [] ∧ ending.crash = none then 0 else 1 := by
  cases errors with
  | nil => simpa using h
  | cons error rest => simpa using h

def heading (fields : List String) : List String :=
  if fields.isEmpty then [] else ["Fields: " ++ ", ".intercalate (sortedTexts fields)]

theorem heading_ok {fields : List String} (h : ∀ field ∈ fields, IsFieldName field)
    (wide : ∀ line ∈ heading fields, 2 * (line.toList.length + 9) ≤ columns) :
    ∀ line ∈ heading fields, ∃ shown, render columns line = .ok shown := by
  intro line hline
  have hplain : Plain line.toList := by
    unfold heading at hline
    split at hline
    · cases hline
    · rw [List.mem_singleton.1 hline]
      exact plain_heading h
  have hwide : 2 * line.toList.length ≤ columns := by
    have hline := wide line hline
    omega
  have hshown := render_plain hplain hwide
  rw [String.ofList_toList] at hshown
  exact ⟨line, hshown⟩

theorem runParse_prints_text (s : Settings) (query : String) :
    ∃ enough, ∀ columns, enough ≤ columns →
      ∃ ending, runParse columns s query false = .finished ending ∧
        PrintsText ending [] (Selector.parse s query).messages [] := by
  obtain ⟨enough, henough⟩ := exists_enough
    (heading (Selector.parse s query).fields ++ (Selector.parse s query).messages)
  refine ⟨enough, fun columns hcolumns => ?_⟩
  have hwide : ∀ text ∈ heading (Selector.parse s query).fields ++
      (Selector.parse s query).messages, 2 * (text.toList.length + 9) ≤ columns :=
    fun text htext => (henough text htext).trans hcolumns
  rw [List.forall_mem_append] at hwide
  have hheading : (printAll columns "" (heading (Selector.parse s query).fields)).2 = none :=
    printAll_of_ok (heading_ok (fun field => isFieldName_of_mem_fields) hwide.1)
  cases hprinted : printAll columns "" (heading (Selector.parse s query).fields) with
  | mk printed fault =>
      rw [hprinted] at hheading
      obtain rfl : fault = none := hheading
      obtain ⟨ending, hending, hprints⟩ := endingAfterLines_prints columns
        (printed ++ Json.write .readable (Selector.parse s query).tree.toValue ++ "\n")
        (titled "error" "red" (Selector.parse s query).messages)
        (!(Selector.parse s query).messages.isEmpty)
      refine ⟨ending, ?_, hprints.stderr, exitCode_eq hprints.exitCode, fun hplain _ => ?_,
        nofun, fun hcrash error herror hplain => ?_, nofun⟩
      · unfold runParse
        unfold heading at hprinted
        dsimp only
        rw [if_neg Bool.false_ne_true, hprinted]
        exact hending
      · exact hprints.crash (titled_ok heads_error hplain hwide.2)
      · exact titled_shows heads_error herror hplain (hwide.2 error herror) (hprints.lines hcrash)

theorem clientNote_ok (wide : 60 ≤ columns) :
    ∃ shown, render columns "[yellow]Client-side filtering required[/yellow]" = .ok shown := by
  have hnote : "[yellow]Client-side filtering required[/yellow]" = String.ofList
      (styledLine "yellow".toList "Client-side filtering required".toList []) := by
    decide +kernel
  have hwords : "Client-side filtering required".toList.all isHarmless = true :=
    harmless_ofList (by decide)
  have hlength : ("Client-side filtering required".toList ++ []).length = 30 := by decide +kernel
  rw [hnote]
  exact ⟨_, render_styledLine namesStyle_yellow (.of_harmless hwords)
    (unmarked_of_harmless hwords) .nil (by rw [hlength]; omega)⟩

theorem compiledLines_ok (hwarnings : ∀ warning ∈ compiled.warnings, Plain warning.toList)
    (herrors : ∀ error ∈ compiled.errors, Plain error.toList) (note : 60 ≤ columns)
    (wide : ∀ message ∈ compiled.warnings ++ compiled.errors,
      2 * (message.toList.length + 9) ≤ columns) :
    ∀ line ∈ compiledLines compiled, ∃ shown, render columns line = .ok shown := by
  rw [List.forall_mem_append] at wide
  unfold compiledLines
  rw [List.forall_mem_append, List.forall_mem_append]
  refine ⟨⟨?_, titled_ok heads_warning hwarnings wide.1⟩, titled_ok heads_error herrors wide.2⟩
  split
  · exact List.forall_mem_singleton.2 (clientNote_ok note)
  · exact fun line hline => absurd hline List.not_mem_nil

/-- A query with warnings has no errors and sends nothing. -/
theorem of_warnings (h : Selector.compile s query = .ok compiled) (hw : compiled.warnings ≠ []) :
    compiled.errors = [] ∧ compiled.serverFilter = [] := by
  rcases warnings_cases h with hnone | ⟨c, left, -⟩
  · exact absurd hnone hw
  · exact ⟨left.errors, left.filter⟩

def filterRows (filter : Entries String Value) : List (String × String) :=
  filter.map fun entry => (entry.1, Json.write .line entry.2)

theorem filterTable_nil (columns : Nat) : filterTable columns [] = .ok "" := rfl

theorem filterTable_ok (columns : Nat) (h : ∀ entry ∈ filter, Plain entry.1.toList ∧
    Plain (Json.write .line entry.2).toList) : ∃ out, filterTable columns filter = .ok out := by
  have hwords (word : String) (hword : word.toList.all isHarmless = true) :
      Plain word.toList := .of_harmless hword
  unfold filterTable
  split
  · exact ⟨_, rfl⟩
  · refine exists_table columns (hwords _ (by decide)) ?_ ?_
    · refine List.forall_mem_cons.2 ⟨hwords _ (by decide), fun text htext => ?_⟩
      rw [List.map_map] at htext
      obtain ⟨entry, hentry, rfl⟩ := List.mem_map.1 htext
      exact (h entry hentry).1
    · refine List.forall_mem_cons.2 ⟨hwords _ (by decide), fun text htext => ?_⟩
      rw [List.map_map] at htext
      obtain ⟨entry, hentry, rfl⟩ := List.mem_map.1 htext
      exact (h entry hentry).2

theorem filterTable_shows {out : String} {entry : String × Value}
    (h : filterTable columns filter = .ok out)
    (wide : tableWidth ("Parameter", "Value") (filterRows filter) ≤ columns)
    (hentry : entry ∈ filter) (hkey : PlainCell entry.1.toList)
    (hvalue : Plain (Json.write .line entry.2).toList) :
    ShowsRow entry.1.toList (Json.write .line entry.2).toList out := by
  have hrow : (entry.1, Json.write .line entry.2) ∈ filterRows filter :=
    List.mem_map_of_mem hentry
  have hnonempty : ¬ filter.isEmpty = true := by
    rw [List.isEmpty_iff]
    rintro rfl
    cases hentry
  have htable : table columns "API filters" ("Parameter", "Value") (filterRows filter) =
      .ok out := by
    rw [← h, filterTable, if_neg hnonempty, filterRows]
  -- Against the goal at once, the row would be looked for in the entry.
  have hshows := table_shows htable wide hrow hkey (plainCell_write hvalue)
  exact hshows

theorem runCompile_text (h : Selector.compile s query = .ok compiled) (columns : Nat) :
    runCompile columns s query false =
      match filterTable columns compiled.serverFilter with
      | .error fault => crashed (.markup fault) ""
      | .ok printed =>
          endingAfterLines columns printed (compiledLines compiled) (!compiled.errors.isEmpty) := by
  unfold runCompile
  rw [h]
  exact if_neg Bool.false_ne_true

/-- A table that cannot be shown stops the run in front of everything else. There are no warnings
then, since something is sent to the server. -/
theorem printsText_of_fault {fault : MarkupFault} (h : Selector.compile s query = .ok compiled)
    (hfilter : filterTable columns compiled.serverFilter = .error fault) :
    PrintsText { exitCode := 1, crash := some (.markup fault) } compiled.warnings compiled.errors
      compiled.serverFilter where
  stderr := rfl
  exitCode := by
    rw [if_neg]
    exact nofun
  crash _ hplain := by
    obtain ⟨out, hout⟩ := filterTable_ok columns hplain
    rw [hfilter] at hout
    cases hout
  warnings := by
    have hnone : compiled.warnings = [] := by
      by_contra hw
      rw [(of_warnings h hw).2, filterTable_nil] at hfilter
      cases hfilter
    rw [hnone]
    exact fun warning hw => absurd hw List.not_mem_nil
  errors := nofun
  entries := nofun

theorem printsText_of_lines {ending : Ending} (h : Selector.compile s query = .ok compiled)
    (hfilter : filterTable columns compiled.serverFilter = .ok printed)
    (hprints : PrintsLines columns printed (compiledLines compiled) (!compiled.errors.isEmpty)
      ending)
    (note : 60 ≤ columns)
    (table : tableWidth ("Parameter", "Value") (filterRows compiled.serverFilter) ≤ columns)
    (wide : ∀ message ∈ compiled.warnings ++ compiled.errors,
      2 * (message.toList.length + 9) ≤ columns) :
    PrintsText ending compiled.warnings compiled.errors compiled.serverFilter := by
  have hwarnings := Selector.plain_warnings h
  have hcrash (herrors : ∀ error ∈ compiled.errors, Plain error.toList) : ending.crash = none :=
    hprints.crash (compiledLines_ok hwarnings herrors note wide)
  rw [List.forall_mem_append] at wide
  refine ⟨hprints.stderr, exitCode_eq hprints.exitCode, fun herrors _ => hcrash herrors,
    fun warning hw => ?_, fun hended error herror hplain => ?_,
    fun hended entry hentry hkey hvalue => ?_⟩
  · have hended : ending.crash = none := by
      refine hcrash fun error herror => ?_
      rw [(of_warnings h (List.ne_nil_of_mem hw)).1] at herror
      cases herror
    refine titled_shows heads_warning hw (hwarnings warning hw) (wide.1 warning hw) ?_
    exact fun line hline => hprints.lines hended line
      (List.mem_append_left _ (List.mem_append_right _ hline))
  · refine titled_shows heads_error herror hplain (wide.2 error herror) ?_
    exact fun line hline => hprints.lines hended line (List.mem_append_right _ hline)
  · exact (filterTable_shows hfilter table hentry hkey hvalue).mono hprints.before.isInfix

theorem runCompile_prints_text (h : Selector.compile s query = .ok compiled) :
    ∃ enough, ∀ columns, enough ≤ columns →
      ∃ ending, runCompile columns s query false = .finished ending ∧
        PrintsText ending compiled.warnings compiled.errors compiled.serverFilter := by
  obtain ⟨enough, henough⟩ := exists_enough (compiled.warnings ++ compiled.errors)
  refine ⟨60 + enough + tableWidth ("Parameter", "Value") (filterRows compiled.serverFilter),
    fun columns hcolumns => ?_⟩
  have hwide : ∀ message ∈ compiled.warnings ++ compiled.errors,
      2 * (message.toList.length + 9) ≤ columns :=
    fun message hmessage => (henough message hmessage).trans (by omega)
  rw [runCompile_text h]
  cases hfilter : filterTable columns compiled.serverFilter with
  | error fault => exact ⟨_, rfl, printsText_of_fault h hfilter⟩
  | ok printed =>
      obtain ⟨ending, hending, hprints⟩ := endingAfterLines_prints columns printed
        (compiledLines compiled) (!compiled.errors.isEmpty)
      exact ⟨ending, hending,
        printsText_of_lines h hfilter hprints (by omega) (by omega) hwide⟩

/-! ## Runs -/

/-- On a console that is wide enough, a query is shown with all warnings, all plain errors and all
plain entries of its server filter. The run fails just if there are errors, or if a text that is
not plain stops it. -/
theorem text_output_shows {m : Type → Type} [Monad m]
    (readFile : String → m (Except FileError ByteArray)) (environment : List (String × String))
    (parseArgs compileArgs : List String) (s : Settings) (query : String)
    (parses : Asks environment parseArgs s (.parse query false))
    (compiles : Asks environment compileArgs s (.compile query false)) :
    ∃ compiled enough, Selector.compile s query = .ok compiled ∧ ∀ columns, enough ≤ columns →
      (∃ ending, run readFile columns environment parseArgs = pure (.finished ending) ∧
        PrintsText ending [] (Selector.parse s query).messages []) ∧
      ∃ ending, run readFile columns environment compileArgs = pure (.finished ending) ∧
        PrintsText ending compiled.warnings compiled.errors compiled.serverFilter := by
  obtain ⟨compiled, hcompiled, -⟩ := compile_of_accepted_settings compiles.accepted query
  obtain ⟨forParse, hparse⟩ := runParse_prints_text s query
  obtain ⟨forCompile, hcompile⟩ := runCompile_prints_text hcompiled
  refine ⟨compiled, max forParse forCompile, hcompiled, fun columns hcolumns => ?_⟩
  obtain ⟨parsing, hparsing, hparsed⟩ := hparse columns ((Nat.le_max_left _ _).trans hcolumns)
  obtain ⟨compiling, hcompiling, hprints⟩ :=
    hcompile columns ((Nat.le_max_right _ _).trans hcolumns)
  rw [parses.run_eq, compiles.run_eq, runAction, runAction, hparsing, hcompiling]
  exact ⟨⟨parsing, rfl, hparsed⟩, compiling, rfl, hprints⟩

theorem text_output_shows_status :
    (Asks [] ["parse", "status = 'todo'"] .standard (.parse "status = 'todo'" false) ∧
      Asks [] ["compile", "status = 'todo'"] .standard (.compile "status = 'todo'" false)) ∧
    ∃ enough, ∀ columns, enough ≤ columns → ∃ ending,
      run (m := Id) (fun _ => .ok .empty) columns [] ["compile", "status = 'todo'"] =
        .finished ending ∧
      ending.crash = none ∧ ending.exitCode = 0 ∧
      ShowsRow "status".toList "\"todo\"".toList ending.stdout := by
  have parses : Asks [] ["parse", "status = 'todo'"] .standard (.parse "status = 'todo'" false) :=
    asks_shown .parse false rfl (by decide)
  have compiles : Asks [] ["compile", "status = 'todo'"] .standard
      (.compile "status = 'todo'" false) := asks_shown .compile false rfl (by decide)
  obtain ⟨compiled, enough, hcompiled, hruns⟩ := text_output_shows (m := Id)
    (fun _ => .ok .empty) [] _ _ .standard "status = 'todo'" parses compiles
  have hread : (Selector.compile .standard "status = 'todo'").map
      (fun compiled => (compiled.errors, filterRows compiled.serverFilter)) =
        .ok ([], [("status", "\"todo\"")]) := by
    decide +kernel
  rw [hcompiled] at hread
  obtain ⟨herrors, hrows⟩ := Prod.mk.inj (Except.ok.inj hread)
  obtain ⟨entry, hfilter, hentry⟩ := List.map_eq_singleton_iff.1 hrows
  obtain ⟨hkey, hvalue⟩ := Prod.mk.inj hentry
  have hplainKey : PlainCell "status".toList := by
    have hprinted : "status".toList.all Json.isPrinted = true := by decide
    refine ⟨.of_harmless (by decide), fun c hc => ?_, fun c hc => ?_⟩
    · exact Json.endsLine_of_isPrinted (List.all_eq_true.1 hprinted c hc)
    · rw [← Option.some.inj hc]
      rfl
  have hplainValue : Plain "\"todo\"".toList := .of_harmless (by decide)
  refine ⟨⟨parses, compiles⟩, enough, fun columns hcolumns => ?_⟩
  obtain ⟨-, ending, hrun, hprints⟩ := hruns columns hcolumns
  have hcrash : ending.crash = none := by
    refine hprints.crash ?_ ?_
    · rw [herrors]
      exact fun error herror => absurd herror List.not_mem_nil
    · rw [hfilter, List.forall_mem_singleton, hkey, hvalue]
      exact ⟨hplainKey.plain, hplainValue⟩
  refine ⟨ending, hrun, hcrash, ?_, ?_⟩
  · rw [hprints.exitCode, herrors, hcrash]
    rfl
  · have hshown := hprints.entries hcrash entry
    rw [hfilter, hkey, hvalue] at hshown
    exact hshown (List.mem_singleton_self _) hplainKey hplainValue

/-- On a console that is wide enough, a query that cannot be read is shown with all its errors if
its characters and those of the known fields have no meaning in markup. -/
theorem refusal_shown {m : Type → Type} [Monad m]
    (readFile : String → m (Except FileError ByteArray)) {parseArgs compileArgs : List String}
    {environment : List (String × String)}
    (parses : Asks environment parseArgs s (.parse query false))
    (compiles : Asks environment compileArgs s (.compile query false))
    (refused : (Selector.parse s query).errors ≠ [])
    (harmless : query.toList.all isHarmless = true)
    (known : ∀ field ∈ s.vocabulary.fields, field.toList.all isHarmless = true) :
    ∃ enough, ∀ columns, enough ≤ columns → ∀ args ∈ [parseArgs, compileArgs], ∃ ending,
      run readFile columns environment args = pure (.finished ending) ∧
        ending.crash = none ∧ ending.exitCode = 1 ∧
        ∀ error ∈ (Selector.parse s query).messages, error.toList <:+: ending.stdout.toList := by
  have hplain := Selector.plain_messages harmless known
  have hmessages : (Selector.parse s query).messages ≠ [] :=
    fun h => refused (List.map_eq_nil_iff.1 h)
  obtain ⟨forParse, hparse⟩ := runParse_prints_text s query
  obtain ⟨forCompile, hcompile⟩ := runCompile_prints_text (compile_of_errors s refused)
  refine ⟨max forParse forCompile, fun columns hcolumns => ?_⟩
  obtain ⟨parsing, hparsing, hparsed⟩ := hparse columns ((Nat.le_max_left _ _).trans hcolumns)
  obtain ⟨compiling, hcompiling, hcompiled⟩ :=
    hcompile columns ((Nat.le_max_right _ _).trans hcolumns)
  refine List.forall_mem_cons.2 ⟨⟨parsing, ?_, hparsed.refusal hmessages hplain⟩,
    List.forall_mem_singleton.2 ⟨compiling, ?_, hcompiled.refusal hmessages hplain⟩⟩
  · rw [parses.run_eq, runAction, hparsing]
  · rw [compiles.run_eq, runAction, hcompiling]

/-! ## Tags in quoted text -/

/-- What is printed before the errors of a query that starts with `status = 'x'`. -/
def statusShown : String :=
  "Fields: status\n\x7b\n  \"type\": \"comparison\",\n  \"field\": \"status\",\n" ++
    "  \"operator\": \"=\",\n  \"value\": \"x\"\n\x7d\n"

/-- A tag in an error or in a value is style: it is not shown, or it closes nothing and stops the
run, also that of a query without errors. -/
theorem tags_not_shown :
    ("Unexpected token: '[red]' at position 13" ∈
        (Selector.parse .standard "status = 'x' '[red]'").messages ∧
      ∃ ending, Id.run (run (fun _ => .ok .empty) 1000 [] ["parse", "status = 'x' '[red]'"]) =
          .finished ending ∧ ending.crash = none ∧
        ¬ "Unexpected token: '[red]' at position 13".toList <:+: ending.stdout.toList) ∧
    ("Unexpected token: '[/x]' at position 13" ∈
        (Selector.parse .standard "status = 'x' '[/x]'").messages ∧
      ∃ ending, Id.run (run (fun _ => .ok .empty) 1000 [] ["parse", "status = 'x' '[/x]'"]) =
          .finished ending ∧ ending.crash = some (.markup .unopened) ∧
        ¬ "Unexpected token: '[/x]' at position 13".toList <:+: ending.stdout.toList) ∧
    (Selector.parse .standard "status = '[/x]'").messages = [] ∧
      Id.run (run (fun _ => .ok .empty) 1000 [] ["compile", "status = '[/x]'"]) =
        .finished { exitCode := 1, stdout := "", crash := some (.markup .unopened) } := by
  refine ⟨⟨by decide +kernel, ?_⟩, ⟨by decide +kernel, ?_⟩, by decide +kernel, by decide +kernel⟩
  · refine ⟨{ exitCode := 1
              stdout := statusShown ++ "error: Unexpected token: '' at position 13\n" },
      by decide +kernel, rfl, by decide +kernel⟩
  · exact ⟨{ exitCode := 1, stdout := statusShown, crash := some (.markup .unopened) },
      by decide +kernel, rfl, by decide +kernel⟩

end TaskQuery.Command
