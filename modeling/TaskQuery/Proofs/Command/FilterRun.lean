import TaskQuery.Proofs.Command.RecordsFile
import TaskQuery.Proofs.Command.Request
import TaskQuery.Proofs.Console.ControlSequence
import TaskQuery.Proofs.Json.Writing
/-!
# Records that are filtered

A query with errors ends the run before the file is opened. Without errors the records of the file
that the tree of the query selects are printed, whatever the server could do. A file without
records is explained; only a file that is no text or has an integer of too many digits stops the
run.
-/

namespace TaskQuery.Command

open Query Selector

variable {s : Settings} {query path : String} {tree : Expr} {records : List Value}
  {file : Except FileError ByteArray}

/-! ## Endings -/

structure PrintsRecords (ending : Ending) (records : List Value) : Prop where
  exitCode : ending.exitCode = 0
  crash : ending.crash = none
  stderr : ending.stderr = ""
  stdout : ending.stdout = Json.write .lines (.list records) ++ "\n"
  document : (Value.list records).allFinite = true →
    Json.Document (Json.treeOf (.list records)) ending.stdout.toList

/-- The ending of a run that fails with some messages, a line for each of them without its
control sequences. Messages without an escape character are printed as they are. -/
structure FailsWith (ending : Ending) (messages : List String) : Prop where
  exitCode : ending.exitCode = 1
  crash : ending.crash = none
  stdout : ending.stdout = ""
  stderr : ∃ lines : List (List Char),
    List.Forall₂ (fun message line => Console.Leaves message.toList line) messages lines ∧
      ending.stderr.toList = lines.flatMap (· ++ ['\n'])
  plain : (∀ message ∈ messages, Console.escape ∉ message.toList) →
    ending.stderr.toList = messages.flatMap (·.toList ++ ['\n'])

structure StopsWith (ending : Ending) (crash : Crash) : Prop where
  exitCode : ending.exitCode = 1
  crash : ending.crash = some crash
  stdout : ending.stdout = ""
  stderr : ending.stderr = ""

theorem endingAfter_prints (records : List Value) :
    ∃ ending, endingAfter (Json.write .lines (.list records) ++ "\n") false = .finished ending ∧
      PrintsRecords ending records :=
  ⟨_, rfl, rfl, rfl, rfl, rfl, Json.document_write⟩

theorem failedWith_fails (messages : List String) :
    ∃ ending, failedWith messages = .finished ending ∧ FailsWith ending messages := by
  have hlines : (String.join (messages.map fun message =>
        Console.plainOutput message ++ "\n")).toList =
      messages.flatMap fun message => Console.withoutSequences message.toList ++ ['\n'] := by
    rw [String.toList_join, List.flatMap_map]
    refine List.flatMap_congr fun message _ => ?_
    rw [String.toList_append, Console.plainOutput, String.toList_ofList]
    rfl
  refine ⟨_, rfl, rfl, rfl, rfl, ?_, fun hplain => ?_⟩
  · refine ⟨messages.map fun message => Console.withoutSequences message.toList, ?_, ?_⟩
    · rw [List.forall₂_map_right_iff, List.forall₂_same]
      exact fun message _ => Console.leaves_iff.2 rfl
    · rw [List.flatMap_map]
      exact hlines
  · refine hlines.trans (List.flatMap_congr fun message hmessage => ?_)
    have hleaves := Console.leaves_of_no_escape (hplain message hmessage)
    rw [Console.leaves_iff.1 hleaves]

theorem crashed_stops (crash : Crash) :
    ∃ ending, crashed crash "" = .finished ending ∧ StopsWith ending crash :=
  ⟨_, rfl, rfl, rfl, rfl, rfl⟩

/-! ## The matches in a file -/

theorem printMatches_of_yields (tree : Expr) (path : String) (h : Yields records file) :
    ∃ ending, printMatches tree path file = .finished ending ∧
      PrintsRecords ending (records.filter (evaluate tree)) := by
  unfold printMatches
  rw [recordsOfFile_eq_ok_iff.2 h]
  exact endingAfter_prints _

theorem printMatches_of_explained {message : String} (tree : Expr)
    (h : Explained path file message) :
    ∃ ending, printMatches tree path file = .finished ending ∧ FailsWith ending [message] := by
  unfold printMatches
  cases h with
  | refused e => exact failedWith_fails _
  | malformed read =>
      unfold readText at read
      rw [recordsOfFile_text, recordsOfText, read]
      exact failedWith_fails _
  | unlisted read none =>
      unfold readText at read
      rw [recordsOfFile_text, recordsOfText, read]
      dsimp only
      rw [recordsOf?_eq_none none]
      exact failedWith_fails _

theorem printMatches_of_stops {crash : Crash} (tree : Expr) (path : String)
    (h : Stops file crash) : printMatches tree path file = crashed crash "" := by
  unfold printMatches
  cases h with
  | undecodable noText => rw [recordsOfFile_undecodable noText]
  | longInteger read digits =>
      unfold readText at read
      rw [recordsOfFile_text, recordsOfText, read]

theorem exists_ending (tree : Expr) (path : String) :
    ∃ ending : Except FileError ByteArray → Ending,
      ∀ file, printMatches tree path file = .finished (ending file) := by
  have hfinished (file : Except FileError ByteArray) :
      ∃ ending, printMatches tree path file = .finished ending := by
    rcases file_cases path file with ⟨records, yields⟩ | ⟨message, explained⟩ | ⟨crash, stops⟩
    · exact (printMatches_of_yields tree path yields).imp fun _ hprints => hprints.1
    · exact (printMatches_of_explained tree explained).imp fun _ hfails => hfails.1
    · exact ⟨_, printMatches_of_stops tree path stops⟩
  exact Classical.skolem.1 hfinished

/-! ## Runs -/

section Runs

variable {m : Type → Type} [Monad m] {environment : List (String × String)} {args : List String}

theorem run_of_accepted (readFile : String → m (Except FileError ByteArray)) (columns : Nat)
    (asks : Asks environment args s (.filter query path))
    (h : (Selector.parse s query).errors = []) :
    run readFile columns environment args =
      if (plainPath path).toList.contains (Char.ofNat 0) then pure (crashed .badPath "")
      else readFile (plainPath path) >>= fun file =>
        pure (printMatches (Selector.parse s query).tree (plainPath path) file) := by
  obtain ⟨c, hc⟩ := asks.accepted.capabilities
  have hcompiled := compile_errors_of_parse (c := c) h
  rw [asks.run_eq, runAction, runFilter]
  dsimp only
  rw [if_neg (by rw [h]; exact Bool.false_ne_true), hc]
  dsimp only
  rw [if_neg (by rw [hcompiled]; exact Bool.false_ne_true)]

theorem run_of_named {ending : Except FileError ByteArray → Ending}
    (readFile : String → m (Except FileError ByteArray)) (columns : Nat)
    (asks : Asks environment args s (.filter query path))
    (h : (Selector.parse s query).errors = []) (named : Char.ofNat 0 ∉ path.toList)
    (hending : ∀ file, printMatches (Selector.parse s query).tree (plainPath path) file =
      .finished (ending file)) :
    run readFile columns environment args =
      readFile (plainPath path) >>= fun file => pure (.finished (ending file)) := by
  have hnamed : ¬ (plainPath path).toList.contains (Char.ofNat 0) = true := by
    rwa [List.contains_iff_mem, mem_plainPath (by decide) (by decide)]
  rw [run_of_accepted readFile columns asks h, if_neg hnamed]
  simp only [hending]

end Runs

/-! ## Matches -/

def statusQuery : String := "status = 'x'"

theorem asks_statusQuery (path : String) (hpath : isOption path = false) :
    Asks [] ["filter", statusQuery, path] .standard (.filter statusQuery path) :=
  asks_filter rfl (by decide) hpath

theorem statusQuery_accepted : (Selector.parse .standard statusQuery).errors = [] := by
  decide +kernel

/-- The run says what is in the file: the matches, or one message why there are none. -/
def Reports (tree : Expr) (path : String) (file : Except FileError ByteArray) (ending : Ending) :
    Prop :=
  (∃ records, Yields records file ∧ PrintsRecords ending (records.filter (evaluate tree))) ∨
    ∃ message, Explained path file message ∧ FailsWith ending [message]

/-- What is in a file is told unless the file stops the run. -/
theorem reports_iff {ending : Ending}
    (h : printMatches tree path file = .finished ending) :
    (Reports tree path file ending ↔ ∀ crash, ¬ Stops file crash) ∧
      ∀ crash, Stops file crash → StopsWith ending crash := by
  have hstops : ∀ crash, Stops file crash → StopsWith ending crash := by
    intro crash stops
    obtain ⟨stopped, hstopped, hcrash⟩ := crashed_stops crash
    rw [printMatches_of_stops tree path stops, hstopped] at h
    obtain rfl := Outcome.finished.inj h
    exact hcrash
  refine ⟨⟨fun reports crash stops => ?_, fun hnone => ?_⟩, hstops⟩
  · have hcrash : ending.crash = none := by
      rcases reports with ⟨records, -, prints⟩ | ⟨message, -, fails⟩
      · exact prints.crash
      · exact fails.crash
    rw [(hstops crash stops).crash] at hcrash
    cases hcrash
  · rcases file_cases path file with ⟨records, yields⟩ | ⟨message, explained⟩ | ⟨crash, stops⟩
    · obtain ⟨printed, hprinted, hprints⟩ := printMatches_of_yields tree path yields
      obtain rfl := Outcome.finished.inj (h.symm.trans hprinted)
      exact .inl ⟨records, yields, hprints⟩
    · obtain ⟨failed, hfailed, hfails⟩ := printMatches_of_explained tree explained
      obtain rfl := Outcome.finished.inj (h.symm.trans hfailed)
      exact .inr ⟨message, explained, hfails⟩
    · exact absurd stops (hnone crash)

/-- Without errors in the query the run tells what is in the file, unless the file is no text or has
an integer of too many digits: then the run is stopped and nothing is printed. -/
theorem records_file_reported {m : Type → Type} [Monad m] (columns : Nat)
    (environment : List (String × String)) (args : List String) (s : Settings)
    (query path : String) (asks : Asks environment args s (.filter query path))
    (accepted : (Selector.parse s query).errors = []) :
    (Char.ofNat 0 ∉ path.toList → ∃ ending : Except FileError ByteArray → Ending,
      (∀ readFile : String → m (Except FileError ByteArray),
        run readFile columns environment args =
          readFile (plainPath path) >>= fun file => pure (.finished (ending file))) ∧
      ∀ file,
        (Reports (Selector.parse s query).tree (plainPath path) file (ending file) ↔
          ∀ crash, ¬ Stops file crash) ∧
        ∀ crash, Stops file crash → StopsWith (ending file) crash) ∧
    (Char.ofNat 0 ∈ path.toList → ∃ ending,
      (∀ readFile : String → m (Except FileError ByteArray),
        run readFile columns environment args = pure (.finished ending)) ∧
      StopsWith ending .badPath) := by
  constructor
  · intro named
    obtain ⟨ending, hending⟩ := exists_ending (Selector.parse s query).tree (plainPath path)
    exact ⟨ending, fun readFile => run_of_named readFile columns asks accepted named hending,
      fun file => reports_iff (hending file)⟩
  · intro unnamed
    obtain ⟨ending, hending, hstops⟩ := crashed_stops .badPath
    refine ⟨ending, fun readFile => ?_, hstops⟩
    have hunnamed : (plainPath path).toList.contains (Char.ofNat 0) = true := by
      rwa [List.contains_iff_mem, mem_plainPath (by decide) (by decide)]
    rw [run_of_accepted readFile columns asks accepted, if_pos hunnamed, hending]

theorem records_file_reported_missing :
    Asks [] ["filter", statusQuery, "r.json"] .standard (.filter statusQuery "r.json") ∧
    (Selector.parse .standard statusQuery).errors = [] ∧
    ∃ ending, run (m := Id) (fun _ => .error .missing) 80 [] ["filter", statusQuery, "r.json"] =
        .finished ending ∧
      FailsWith ending
        ["Could not read records from r.json: [Errno 2] No such file or directory: 'r.json'"] := by
  have asks := asks_statusQuery "r.json" (by decide)
  obtain ⟨hnamed, -⟩ :=
    records_file_reported (m := Id) 80 [] _ .standard _ _ asks statusQuery_accepted
  obtain ⟨ending, hrun, hreports⟩ := hnamed (by decide)
  have hfile := hrun fun _ => .error .missing
  obtain ⟨records, ⟨⟩, -⟩ | ⟨message, explained, hfails⟩ :=
    (hreports (.error .missing)).1.2 fun crash stops => nomatch stops
  cases explained
  exact ⟨asks, statusQuery_accepted, ending _, hfile, hfails⟩

def longInteger : List Char :=
  '1' :: List.replicate Number.digitLimit '1'

def longIntegerText : String :=
  String.ofList ('[' :: (longInteger ++ [']']))

theorem longIntegerText_stops : Stops (.ok longIntegerText.toUTF8) .longInteger := by
  have hwhole : Json.IsWhole longInteger :=
    .digits rfl (by decide) fun d hd => by rw [List.eq_of_mem_replicate hd]; rfl
  have hblank : Json.IsBlanks [] := fun c hc => absurd hc List.not_mem_nil
  have hitem : Json.Document (.number longInteger) longInteger := by
    have hmagnitude := Json.IsMagnitude.parts hwhole .absent .absent
    rw [List.append_nil, List.append_nil] at hmagnitude
    have hnumber := Json.Spells.item hblank (.number (.unsigned hmagnitude)) hblank
    rwa [List.nil_append, List.append_nil] at hnumber
  have hdocument : Json.Document (.array [.number longInteger]) longIntegerText.toList := by
    rw [longIntegerText, String.toList_ofList]
    have hlist := Json.Spells.item hblank (.array hitem) hblank
    rwa [List.nil_append, List.append_nil] at hlist
  have hlong : Json.valueOf? (some Number.digitLimit) (.number longInteger) = none := by
    rw [Json.valueOf?_whole hwhole, longInteger, List.length_cons, List.length_replicate]
    exact if_pos (by simp)
  refine stops_of_document hdocument ?_
  rw [Json.valueOf?, Json.valuesOf?, hlong]
  rfl

/-- A file whose bytes are no text, and a file with a list of one long integer, end the run
without a message. -/
theorem unusable_not_reported :
    Asks [] ["filter", statusQuery, "r.json"] .standard (.filter statusQuery "r.json") ∧
    (Selector.parse .standard statusQuery).errors = [] ∧
    run (m := Id) (fun _ => .ok ⟨#[0x5B, 0xFF, 0x5D]⟩) 80 [] ["filter", statusQuery, "r.json"] =
      .finished { exitCode := 1, crash := some .undecodable } ∧
    run (m := Id) (fun _ => .ok longIntegerText.toUTF8) 80 []
        ["filter", statusQuery, "r.json"] =
      .finished { exitCode := 1, crash := some .longInteger } := by
  have asks := asks_statusQuery "r.json" (by decide)
  have hstopped {file : Except FileError ByteArray} {crash : Crash} (stops : Stops file crash) :
      run (m := Id) (fun _ => file) 80 [] ["filter", statusQuery, "r.json"] =
        .finished { exitCode := 1, crash := some crash } := by
    rw [run_of_accepted _ 80 asks statusQuery_accepted, if_neg (by decide)]
    exact printMatches_of_stops _ _ stops
  exact ⟨asks, statusQuery_accepted, hstopped (.undecodable (by decide)),
    hstopped longIntegerText_stops⟩

end TaskQuery.Command
