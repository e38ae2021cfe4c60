import TaskQuery.Proofs.Command.Request
import TaskQuery.Proofs.Json.Writing
import TaskQuery.Proofs.Query.Printing
/-!
# JSON output

With `--json` a query is shown as one line-broken JSON text. It is a document of the grammar
just if all doubles that reach it are finite; a decimal beyond the greatest double is read as
infinity, and that is written as a word that no document has.
-/

namespace TaskQuery

open Query Grammar Server Selector

variable {environment : List (String × String)} {args : List String} {s : Settings}
  {query : String} {tree : Expr} {w : Walk} {c : Capabilities} {key : String} {value : Value}
  {entries : Entries String Value}

/-! ## Doubles that reach the output -/

namespace Query.Expr

def allFinite : Expr → Bool
  | .absent => true
  | .comparison _ _ value => value.allFinite
  | .logical _ left right => left.allFinite && right.allFinite
  | .group inner => inner.allFinite

end Query.Expr

namespace Value

theorem allFiniteEntries_append (a b : List (String × Value)) :
    allFiniteEntries (a ++ b) = (allFiniteEntries a && allFiniteEntries b) := by
  induction a with
  | nil => rfl
  | cons entry rest ih =>
      rw [List.cons_append, allFiniteEntries, allFiniteEntries, ih, Bool.and_assoc]

theorem allFinite_textList (texts : List String) :
    (Command.textList texts).allFinite = true := by
  unfold Command.textList
  induction texts with
  | nil => rfl
  | cons text rest ih => exact ih

theorem allFinite_toValue (tree : Expr) : tree.toValue.allFinite = tree.allFinite := by
  induction tree with
  | absent => rfl
  | comparison field op value =>
      simp only [Expr.toValue, allFinite, allFiniteEntries, Expr.allFinite, Bool.true_and,
        Bool.and_true]
  | logical connective left right ihl ihr =>
      have hleft : allFiniteEntries (if left.isAbsent then [] else [("left", left.toValue)]) =
          left.allFinite := by
        cases left with
        | absent => rfl
        | _ => exact (Bool.and_true _).trans ihl
      simp only [Expr.toValue, allFinite, allFiniteEntries_append, hleft, allFiniteEntries, ihr,
        Expr.allFinite, Bool.true_and, Bool.and_true]
  | group inner ih =>
      simp only [Expr.toValue, allFinite, allFiniteEntries, ih, Expr.allFinite, Bool.true_and,
        Bool.and_true]

theorem allFiniteEntries_iff :
    allFiniteEntries entries = true ↔ ∀ entry ∈ entries, entry.2.allFinite = true := by
  induction entries with
  | nil => simp [allFiniteEntries]
  | cons entry rest ih => rw [allFiniteEntries, Bool.and_eq_true, ih, List.forall_mem_cons]

end Value

namespace Server

theorem allFinite_sentValue (hv : value.allFinite = true) :
    (Walk.sentValue c key value).allFinite = true := by
  unfold Walk.sentValue
  split
  · exact (Bool.and_true _).trans hv
  · exact hv

theorem allFinite_of_mem_conjuncts {field : String} {op : Operator} (ht : tree.allFinite = true)
    (hpart : .comparison field op value ∈ conjuncts tree) : value.allFinite = true := by
  induction tree with
  | absent => exact absurd (List.mem_singleton.1 hpart) (by simp)
  | comparison name sign literal =>
      obtain ⟨-, -, rfl⟩ := Expr.comparison.inj (List.mem_singleton.1 hpart)
      exact ht
  | logical connective left right ihl ihr =>
      obtain ⟨hleft, hright⟩ := Bool.and_eq_true_iff.1 ht
      cases connective with
      | and => exact (List.mem_append.1 hpart).elim (ihl hleft) (ihr hright)
      | or => exact absurd (List.mem_singleton.1 hpart) (by simp)
      | not => exact absurd (List.mem_singleton.1 hpart) (by simp)
  | group inner ih => exact ih ht hpart

/-- The filter of a compiled tree has doubles of the tree only. -/
theorem allFinite_serverFilter (c : Capabilities) (ht : tree.allFinite = true) :
    Value.allFiniteEntries (Server.compile c tree).serverFilter = true := by
  rw [Value.allFiniteEntries_iff]
  intro entry hentry
  obtain ⟨field, op, value, hpart, -, heq⟩ := mem_serverFilter hentry
  rw [heq]
  exact allFinite_sentValue (allFinite_of_mem_conjuncts ht hpart)

end Server

namespace Command

theorem allFinite_parsedDocument (parsed : Parsed) :
    (parsedDocument parsed).allFinite = parsed.tree.allFinite := by
  simp only [parsedDocument, Value.allFinite, Value.allFiniteEntries, Value.allFinite_textList,
    Value.allFinite_toValue, Bool.and_true]

theorem allFinite_compiledDocument (compiled : Compilation) :
    (compiledDocument compiled).allFinite = Value.allFiniteEntries compiled.serverFilter := by
  simp only [compiledDocument, Value.allFinite, Value.allFiniteEntries, Value.allFinite_textList,
    Bool.and_true]

/-- What a run with `--json` ends with. Its output is a document with the errors of the result,
or, if a double in it is not finite, no document at all. -/
structure PrintsJson (ending : Ending) (finite : Bool) (errors : List String) : Prop where
  crash : ending.crash = none
  stderr : ending.stderr = ""
  exitCode : ending.exitCode = if errors = [] then 0 else 1
  document : finite = true → ∃ t, Json.Document t ending.stdout.toList ∧
    t.member? "errors".toList = some (.array (errors.map fun e => .string e.toList))
  noDocument : finite = false → ¬ ∃ t, Json.Document t ending.stdout.toList

theorem treesOf_texts (texts : List String) :
    Json.treesOf (texts.map .text) = texts.map fun text => .string text.toList := by
  induction texts with
  | nil => rfl
  | cons text rest ih => exact congrArg (Json.Tree.string text.toList :: ·) ih

theorem printsJson (value : Value) (errors : List String)
    (hmember : (Json.treeOf value).member? "errors".toList =
      some (.array (Json.treesOf (errors.map .text)))) :
    PrintsJson
      { exitCode := if !errors.isEmpty then 1 else 0, stdout := Json.write .lines value ++ "\n" }
      value.allFinite errors where
  crash := rfl
  stderr := rfl
  exitCode := by cases errors <;> rfl
  document hfinite :=
    ⟨Json.treeOf value, Json.document_write hfinite, by rw [hmember, treesOf_texts]⟩
  noDocument hinfinite := by
    rw [Json.exists_document_iff, hinfinite]
    exact Bool.false_ne_true

theorem runParse_prints (columns : Nat) (s : Settings) (query : String) :
    ∃ ending, runParse columns s query true = .finished ending ∧
      PrintsJson ending (Selector.parse s query).tree.allFinite
        (Selector.parse s query).messages := by
  have hprints := printsJson (parsedDocument (Selector.parse s query))
    (Selector.parse s query).messages rfl
  rw [allFinite_parsedDocument] at hprints
  exact ⟨_, rfl, hprints⟩

theorem runCompile_prints (columns : Nat) {compiled : Compilation}
    (hcompiled : Selector.compile s query = .ok compiled) :
    ∃ ending, runCompile columns s query true = .finished ending ∧
      PrintsJson ending (Value.allFiniteEntries compiled.serverFilter) compiled.errors := by
  have hprints := printsJson (compiledDocument compiled) compiled.errors rfl
  rw [allFinite_compiledDocument] at hprints
  refine ⟨_, ?_, hprints⟩
  unfold runCompile
  rw [hcompiled]
  rfl

theorem allFinite_of_compile {compiled : Compilation}
    (hcompiled : Selector.compile s query = .ok compiled)
    (ht : (Selector.parse s query).tree.allFinite = true) :
    Value.allFiniteEntries compiled.serverFilter = true := by
  by_cases h : (Selector.parse s query).errors = []
  · rw [compile_of_no_errors s h] at hcompiled
    obtain ⟨c, -, hc⟩ := Server.bind_ok_iff.1 hcompiled
    obtain rfl := Except.ok.inj hc
    exact allFinite_serverFilter c ht
  · rw [compile_of_errors s h] at hcompiled
    obtain rfl := Except.ok.inj hcompiled
    rfl

/-- With `--json` a query is shown as one document that holds the errors of the result, and the
run fails just if there are any. Only a double that is not finite keeps the output from being a
document. -/
theorem json_output_document {m : Type → Type} [Monad m]
    (readFile : String → m (Except FileError ByteArray)) (columns : Nat)
    (environment : List (String × String)) (parseArgs compileArgs : List String) (s : Settings)
    (query : String)
    (parses : Asks environment parseArgs s (.parse query true))
    (compiles : Asks environment compileArgs s (.compile query true)) :
    (∃ ending, run readFile columns environment parseArgs = pure (.finished ending) ∧
      PrintsJson ending (Selector.parse s query).tree.allFinite
        (Selector.parse s query).messages) ∧
    ∃ compiled ending, Selector.compile s query = .ok compiled ∧
      run readFile columns environment compileArgs = pure (.finished ending) ∧
      PrintsJson ending (Value.allFiniteEntries compiled.serverFilter) compiled.errors ∧
      ((Selector.parse s query).tree.allFinite = true →
        Value.allFiniteEntries compiled.serverFilter = true) := by
  obtain ⟨parsed, hparse, hparsed⟩ := runParse_prints columns s query
  obtain ⟨compiled, hcompiled, -⟩ := compile_of_accepted_settings compiles.accepted query
  obtain ⟨ending, hcompile, hprinted⟩ := runCompile_prints columns hcompiled
  rw [parses.run_eq, compiles.run_eq, runAction, runAction, hparse, hcompile]
  exact ⟨⟨parsed, rfl, hparsed⟩, compiled, ending, hcompiled, rfl, hprinted,
    allFinite_of_compile hcompiled⟩

theorem json_output_document_priority :
    (Asks [] ["parse", "priority = 2.5", "--json"] .standard (.parse "priority = 2.5" true) ∧
      Asks [] ["compile", "priority = 2.5", "--json"] .standard
        (.compile "priority = 2.5" true)) ∧
    ∃ ending, run (m := Id) (fun _ => .ok .empty) 80 [] ["parse", "priority = 2.5", "--json"] =
        .finished ending ∧
      PrintsJson ending true [] := by
  have parses : Asks [] ["parse", "priority = 2.5", "--json"] .standard
      (.parse "priority = 2.5" true) := asks_shown .parse true rfl (by decide)
  have compiles : Asks [] ["compile", "priority = 2.5", "--json"] .standard
      (.compile "priority = 2.5" true) := asks_shown .compile true rfl (by decide)
  obtain ⟨⟨ending, hrun, hprints⟩, -⟩ := json_output_document (m := Id)
    (fun _ => .ok .empty) 80 [] _ _ .standard "priority = 2.5" parses compiles
  have hread : (Selector.parse .standard "priority = 2.5").tree.allFinite = true ∧
      (Selector.parse .standard "priority = 2.5").messages = [] := by
    decide +kernel
  rw [hread.1, hread.2] at hprints
  exact ⟨⟨parses, compiles⟩, ending, hrun, hprints⟩

/-! ## A decimal beyond the greatest double -/

theorem parse_of_known {text : String} (canonical : tree.Canonical) (h : tree.PrintedAs text)
    (known : ∀ field ∈ tree.fields, field ∈ s.validFields) :
    (Selector.parse s text).errors = [] ∧ (Selector.parse s text).tree = tree := by
  obtain ⟨tokens, ht, ha, htree⟩ := parse_of_printed canonical h
  obtain ⟨d, stop, hs, rfl⟩ := derivation_of_tokenize ht ha
  have hd : d.tree = tree := by
    rw [parseTokens_derivation d stop hs []] at htree
    exact htree
  have hnames : ∀ t ∈ d.tokens ++ [stop], t.kind = .identifier →
      Text.lower t.text ∈ s.validFields := by
    rw [← forall_mem_fieldNames, fieldNames_append, d.fieldNames_tokens, hd,
      fieldNames_other (by rw [hs]; decide)]
    exact fun field hfield => known field (by simpa [fieldNames] using hfield)
  have haccepted := (parse_errors_eq_nil_iff s).2 ⟨_, ht, ha, hnames⟩
  obtain ⟨tokens', ht', -, hparse⟩ := parse_eq_ofOutcome s haccepted
  obtain rfl := Except.ok.inj (ht.symm.trans ht')
  exact ⟨haccepted, hparse ▸ htree⟩

def hugeDecimal : List Char :=
  '1' :: List.replicate 309 '0' ++ ['.', '0']

theorem hugeDecimal_expands : Number.Expansion (.infinite false) hugeDecimal := by
  have hzeros := Json.isDigit_of_mem_replicate 309
  refine .infinite (List.cons_ne_nil _ _) (List.cons_ne_nil _ _)
    (List.forall_mem_cons.2 ⟨by decide, hzeros⟩) (List.forall_mem_singleton.2 rfl) ?_
  decide +kernel

/-- The query `priority = 1000…0.0`. -/
def hugePriority : String :=
  String.ofList ("priority".toList ++ ([' '] ++ (Operator.eq.symbol.toList ++
    ([' '] ++ hugeDecimal))))

theorem toList_hugePriority : hugePriority.toList =
    "priority".toList ++ ([' '] ++ (Operator.eq.symbol.toList ++ ([' '] ++ hugeDecimal))) :=
  String.toList_ofList

def infinitePriority : Expr :=
  .comparison "priority" .eq (.float (.infinite false))

theorem infinitePriority_canonical : infinitePriority.Canonical :=
  ⟨⟨⟨'p', "riority".toList, rfl, by decide, List.all_eq_true.1 (by decide)⟩, by decide⟩, rfl⟩

theorem infinitePriority_printed : infinitePriority.PrintedAs hugePriority := by
  have hblank : ∀ c ∈ [' '], Text.isBlank c = true := List.forall_mem_singleton.2 rfl
  have hvalue : PrintsTest .eq (.float (.infinite false))
      [Operator.eq.symbol.toList, hugeDecimal] := .binary rfl (.float hugeDecimal_expands)
  have hoperator : Spaced [Operator.eq.symbol.toList, hugeDecimal]
      (Operator.eq.symbol.toList ++ ([' '] ++ hugeDecimal)) :=
    .more _ (List.cons_ne_nil _ _) hblank (.last _)
  have hspaced := hoperator.more "priority".toList (List.cons_ne_nil _ _) hblank
  rw [← toList_hugePriority] at hspaced
  exact ⟨_, .comparison "priority" hvalue, hspaced⟩

theorem parse_hugePriority :
    (Selector.parse .standard hugePriority).errors = [] ∧
      (Selector.parse .standard hugePriority).tree = infinitePriority :=
  parse_of_known infinitePriority_canonical infinitePriority_printed
    (List.forall_mem_singleton.2 (by decide))

theorem isOption_hugePriority : isOption hugePriority = false :=
  isOption_of_head (c := 'p') toList_hugePriority (by decide)

/-- A query that is accepted and not shown as a document. The decimal is `Infinity` in the
output of both commands, which end as if nothing were wrong. -/
theorem hugePriority_no_document :
    Asks [] ["parse", hugePriority, "--json"] .standard (.parse hugePriority true) ∧
    Asks [] ["compile", hugePriority, "--json"] .standard (.compile hugePriority true) ∧
    (∃ ending, run (m := Id) (fun _ => .ok .empty) 80 [] ["parse", hugePriority, "--json"] =
        .finished ending ∧
      ending.exitCode = 0 ∧ ¬ ∃ t, Json.Document t ending.stdout.toList) ∧
    ∃ ending, run (m := Id) (fun _ => .ok .empty) 80 [] ["compile", hugePriority, "--json"] =
        .finished ending ∧
      ending.exitCode = 0 ∧ ¬ ∃ t, Json.Document t ending.stdout.toList := by
  have parses : Asks [] ["parse", hugePriority, "--json"] .standard (.parse hugePriority true) :=
    asks_shown .parse true rfl isOption_hugePriority
  have compiles : Asks [] ["compile", hugePriority, "--json"] .standard
      (.compile hugePriority true) := asks_shown .compile true rfl isOption_hugePriority
  obtain ⟨herrors, htree⟩ := parse_hugePriority
  refine ⟨parses, compiles, ?_, ?_⟩
  · obtain ⟨ending, hrun, hprints⟩ := runParse_prints 80 .standard hugePriority
    refine ⟨ending, (parses.run_eq _ _).trans hrun, ?_, hprints.noDocument ?_⟩
    · rw [hprints.exitCode, Parsed.messages, herrors]
      rfl
    · rw [htree]
      rfl
  · have hcapabilities : Settings.standard.capabilities = .ok .standard := rfl
    have hcompiled := compile_of_accepted hcapabilities herrors
    obtain ⟨ending, hrun, hprints⟩ := runCompile_prints 80 hcompiled
    refine ⟨ending, (compiles.run_eq _ _).trans hrun, ?_, hprints.noDocument ?_⟩
    · rw [hprints.exitCode, compile_errors_of_parse herrors]
      rfl
    · rw [htree]
      rfl

end Command

end TaskQuery
