import TaskQuery.Command.Run
import TaskQuery.Proofs.Json.Halves
import TaskQuery.Proofs.Json.LineEnds
/-!
# What a file of records holds

A file yields records, or there is a message that says why it has none, or it stops the program:
its bytes are no text, or an integer in it has too many digits. Every file does one of these. The
records that a file yields are those it holds, unless half a pair of code units stands alone in it:
there is no character for such a half, and the reader puts another one in its place.
-/

namespace TaskQuery.Command

variable {records : List Value} {document : Value} {bytes : ByteArray} {text path : String}
  {c : Char} {cs sep digits : List Char} {parts : List (List Char)}

/-- The documents that list records: the list itself, or a mapping that has it under `tasks`. -/
inductive Lists (records : List Value) : Value → Prop where
  | bare : Lists records (.list records)
  | envelope {entries : Entries String Value}
      (found : entries.get? "tasks" = some (.list records)) : Lists records (.mapping entries)

/-- The document of a text, whose lines may end as on any system. -/
def readText (text : String) : Except Json.ReadError Value :=
  Json.read (some Number.digitLimit) (String.ofList (Text.plainLineEnds text.toList))

/-- The files that records are read from. Every document of the grammar is read
(`yields_of_document`), and so is what the reader takes beyond the grammar, such as `NaN`. -/
inductive Yields (records : List Value) : Except FileError ByteArray → Prop where
  | text {text : String} {document : Value} (read : readText text = .ok document)
      (lists : Lists records document) : Yields records (.ok text.toUTF8)

/-- The files that hold records: these are read from the file, and no half of a pair stands alone
in its text, so that the reader leaves each text as it is written (`Json.SpellsChars.points`). -/
inductive Holds (records : List Value) : Except FileError ByteArray → Prop where
  | text {text : String} (yields : Yields records (.ok text.toUTF8))
      (whole : ¬ Json.HasLoneHalf text.toList) : Holds records (.ok text.toUTF8)

/-- The files without records, with the message that says so. -/
inductive Explained (path : String) : Except FileError ByteArray → String → Prop where
  | refused (e : FileError) : Explained path (.error e)
      ("Could not read records from " ++ path ++ ": " ++ e.message path)
  | malformed {text : String} {fault : Json.Fault} {place : Json.Place}
      (read : readText text = .error (.malformed fault place)) : Explained path (.ok text.toUTF8)
        ("Could not read records from " ++ path ++ ": " ++ Json.malformedMessage fault place)
  | unlisted {text : String} {document : Value} (read : readText text = .ok document)
      (none : ∀ records, ¬ Lists records document) : Explained path (.ok text.toUTF8)
        ("Expected a JSON array of records in " ++ path)

/-- The files that stop the program without a message. -/
inductive Stops : Except FileError ByteArray → Crash → Prop where
  | undecodable {bytes : ByteArray} (noText : ¬ bytes.IsValidUTF8) :
      Stops (.ok bytes) .undecodable
  | longInteger {text : String} (read : readText text = .error .longInteger)
      (digits : Json.LongRun Number.digitLimit text.toList) :
      Stops (.ok text.toUTF8) .longInteger

/-! ## Paths -/

theorem mem_partsBetween {p : Char → Bool} (h : p c = false) :
    (∃ part ∈ Text.partsBetween p cs, c ∈ part) ↔ c ∈ cs := by
  induction cs with
  | nil => simp [Text.partsBetween]
  | cons d rest ih =>
      rw [List.mem_cons, ← ih]
      unfold Text.partsBetween
      rw [List.foldr_cons]
      split
      · rename_i hd
        have hne : c ≠ d := by
          rintro rfl
          exact Bool.false_ne_true (h.symm.trans hd)
        simp [hne]
      · split
        · rename_i part others hparts
          rw [hparts]
          simp [or_assoc]
        · rename_i hparts
          rw [hparts]
          simp

theorem mem_intercalate (h : c ∉ sep) :
    c ∈ sep.intercalate parts ↔ ∃ part ∈ parts, c ∈ part := by
  induction parts with
  | nil => simp
  | cons part others ih =>
      cases others with
      | nil => simp
      | cons next rest =>
          rw [List.intercalate_cons_cons, List.mem_append, List.mem_append, ih]
          simp [h]

/-- No other characters than slashes and dots are added to a path or taken from it. -/
theorem mem_plainPath (hslash : c ≠ '/') (hdot : c ≠ '.') :
    c ∈ (plainPath path).toList ↔ c ∈ path.toList := by
  have hkept : ∀ part : List Char, c ∈ part → (!part.isEmpty && part != ['.']) = true := by
    intro part hc
    have hempty : part ≠ [] := List.ne_nil_of_mem hc
    have hplace : part ≠ ['.'] := by
      rintro rfl
      exact hdot (List.mem_singleton.1 hc)
    simp [hempty, hplace]
  unfold plainPath
  extract_lets cs root parts front plain
  have hroot : c ∉ root := by
    intro hc
    have hmark := List.mem_takeWhile_imp (p := (· == '/')) hc
    exact hslash (eq_of_beq hmark)
  have hfront : c ∉ front := by
    intro hc
    dsimp only [front] at hc
    split at hc
    · exact hroot hc
    · exact hroot (List.mem_of_mem_take hc)
  have hplain : c ∈ plain ↔ c ∈ cs := by
    have hparts : (∃ part ∈ pathParts cs, c ∈ part) ↔ c ∈ cs :=
      mem_partsBetween (beq_eq_false_iff_ne.2 hslash)
    rw [List.mem_append, mem_intercalate (mt List.mem_singleton.1 hslash), ← hparts]
    constructor
    · rintro (hc | ⟨part, hpart, hc⟩)
      · exact absurd hc hfront
      · exact ⟨part, (List.mem_filter.1 hpart).1, hc⟩
    · rintro ⟨part, hpart, hc⟩
      exact .inr ⟨part, List.mem_filter.2 ⟨hpart, hkept part hc⟩, hc⟩
  rw [← hplain]
  split
  · rename_i hempty
    rw [List.isEmpty_iff.1 hempty]
    simp [hdot]
  · rw [String.toList_ofList]

/-! ## Reading a file -/

theorem Holds.yields {file : Except FileError ByteArray} (h : Holds records file) :
    Yields records file := by
  cases h with
  | text yields whole => exact yields

theorem recordsOf?_eq_some_iff : recordsOf? document = some records ↔ Lists records document := by
  constructor
  · intro h
    unfold recordsOf? at h
    split at h
    · obtain rfl := Option.some.inj h
      exact .bare
    · obtain ⟨value, found, hitems⟩ := Option.bind_eq_some_iff.1 h
      unfold Value.items? at hitems
      split at hitems
      · obtain rfl := Option.some.inj hitems
        exact .envelope found
      · cases hitems
    · cases h
  · intro h
    cases h with
    | bare => rfl
    | envelope found =>
        unfold recordsOf?
        dsimp only
        rw [found]
        rfl

theorem recordsOf?_eq_none (h : ∀ records, ¬ Lists records document) :
    recordsOf? document = none := by
  rw [Option.eq_none_iff_forall_ne_some]
  exact fun records hrecords => h records (recordsOf?_eq_some_iff.1 hrecords)

theorem fromUTF8?_toUTF8 (text : String) : String.fromUTF8? text.toUTF8 = some text := by
  unfold String.fromUTF8?
  exact dif_pos text.isValidUTF8

theorem exists_toUTF8_eq (h : bytes.IsValidUTF8) : ∃ text : String, bytes = text.toUTF8 :=
  ⟨String.fromUTF8 bytes h, rfl⟩

theorem recordsOfFile_text (text : String) :
    recordsOfFile (.ok text.toUTF8) = recordsOfText text := by
  unfold recordsOfFile
  dsimp only
  rw [fromUTF8?_toUTF8]

theorem recordsOfFile_undecodable (noText : ¬ bytes.IsValidUTF8) :
    recordsOfFile (.ok bytes) = .error .notText := by
  unfold recordsOfFile String.fromUTF8?
  dsimp only
  rw [dif_neg noText]

theorem recordsOfText_eq_ok_iff :
    recordsOfText text = .ok records ↔
      ∃ document, readText text = .ok document ∧ Lists records document := by
  unfold recordsOfText readText
  split
  · rename_i hread
    simp [hread]
  · rename_i hread
    simp [hread]
  · rename_i document hread
    cases hrecords : recordsOf? document with
    | none =>
        have hnone : ¬ Lists records document := by
          rw [← recordsOf?_eq_some_iff, hrecords]
          exact nofun
        simp [hread, hnone]
    | some found => simp [hread, ← recordsOf?_eq_some_iff, hrecords]

theorem recordsOfFile_eq_ok_iff {file : Except FileError ByteArray} :
    recordsOfFile file = .ok records ↔ Yields records file := by
  constructor
  · intro h
    cases file with
    | error e => cases h
    | ok bytes =>
        by_cases hvalid : bytes.IsValidUTF8
        · obtain ⟨text, rfl⟩ := exists_toUTF8_eq hvalid
          rw [recordsOfFile_text] at h
          obtain ⟨document, read, lists⟩ := recordsOfText_eq_ok_iff.1 h
          exact .text read lists
        · rw [recordsOfFile_undecodable hvalid] at h
          cases h
  · rintro ⟨read, lists⟩
    rw [recordsOfFile_text]
    exact recordsOfText_eq_ok_iff.2 ⟨_, read, lists⟩

/-! ## Digits of a text -/

theorem eq_nil_of_prefix_lineEnd (hdigits : ∀ d ∈ digits, d.isDigit = true)
    (h : digits <+: '\n' :: cs) : digits = [] := by
  cases digits with
  | nil => rfl
  | cons d ds =>
      obtain rfl := (List.cons_prefix_cons.1 h).1
      exact absurd (hdigits '\n' List.mem_cons_self) (by decide)

theorem prefix_of_plainLineEnds (hdigits : ∀ d ∈ digits, d.isDigit = true)
    (h : digits <+: Text.plainLineEnds cs) : digits <+: cs := by
  fun_induction Text.plainLineEnds cs generalizing digits with
  | case1 => exact h
  | case2 rest ih => exact eq_nil_of_prefix_lineEnd hdigits h ▸ List.nil_prefix
  | case3 rest hrest ih => exact eq_nil_of_prefix_lineEnd hdigits h ▸ List.nil_prefix
  | case4 c rest hcrlf hcr ih =>
      cases digits with
      | nil => exact List.nil_prefix
      | cons d ds =>
          obtain ⟨rfl, hds⟩ := List.cons_prefix_cons.1 h
          exact List.cons_prefix_cons.2 ⟨rfl, ih (List.forall_mem_cons.1 hdigits).2 hds⟩

theorem suffix_of_plainLineEnds {after : List Char} (h : after <:+ Text.plainLineEnds cs) :
    ∃ rest, rest <:+ cs ∧ Text.plainLineEnds rest = after := by
  fun_induction Text.plainLineEnds cs with
  | case1 => exact ⟨[], List.suffix_rfl, (List.suffix_nil.1 h).symm⟩
  | case2 rest ih =>
      rcases List.suffix_cons_iff.1 h with rfl | hafter
      · exact ⟨_, List.suffix_rfl, rfl⟩
      · obtain ⟨tail, hend, heq⟩ := ih hafter
        exact ⟨tail, hend.trans (List.suffix_append ['\r', '\n'] rest), heq⟩
  | case3 rest hrest ih =>
      rcases List.suffix_cons_iff.1 h with rfl | hafter
      · exact ⟨'\r' :: rest, List.suffix_rfl, by rw [Text.plainLineEnds]; exact hrest⟩
      · obtain ⟨tail, hend, heq⟩ := ih hafter
        exact ⟨tail, hend.trans (List.suffix_cons '\r' rest), heq⟩
  | case4 c rest hcrlf hcr ih =>
      rcases List.suffix_cons_iff.1 h with rfl | hafter
      · exact ⟨c :: rest, List.suffix_rfl, by rw [Text.plainLineEnds] <;> assumption⟩
      · obtain ⟨tail, hend, heq⟩ := ih hafter
        exact ⟨tail, hend.trans (List.suffix_cons c rest), heq⟩

/-- Line ends do not stand between digits, so that making them one leaves all runs of digits. -/
theorem longRun_of_plainLineEnds {n : Nat} (h : Json.LongRun n (Text.plainLineEnds cs)) :
    Json.LongRun n cs := by
  obtain ⟨digits, hinside, hdigits, hlong⟩ := h
  obtain ⟨after, hfront, hafter⟩ := List.infix_iff_prefix_suffix.1 hinside
  obtain ⟨rest, hrest, rfl⟩ := suffix_of_plainLineEnds hafter
  exact ⟨digits, (prefix_of_plainLineEnds hdigits hfront).isInfix.trans hrest.isInfix, hdigits,
    hlong⟩

theorem longRun_of_readText (h : readText text = .error .longInteger) :
    Json.LongRun Number.digitLimit text.toList := by
  have hrun := Json.longRun_of_read h
  rw [String.toList_ofList] at hrun
  exact longRun_of_plainLineEnds hrun

/-! ## Documents -/

section Documents

variable {t : Json.Tree}

/-- Whatever its line ends are, a document is read as its value. -/
theorem readText_of_document (h : Json.Document t text.toList) :
    (∀ document, Json.valueOf? (some Number.digitLimit) t = some document →
      readText text = .ok document) ∧
    (Json.valueOf? (some Number.digitLimit) t = none → readText text = .error .longInteger) := by
  refine Json.read_of_document ?_
  rw [String.toList_ofList]
  exact h.plainLineEnds

theorem yields_of_document (h : Json.Document t text.toList)
    (value : Json.valueOf? (some Number.digitLimit) t = some document)
    (lists : Lists records document) : Yields records (.ok text.toUTF8) :=
  .text ((readText_of_document h).1 document value) lists

theorem stops_of_document (h : Json.Document t text.toList)
    (none : Json.valueOf? (some Number.digitLimit) t = none) :
    Stops (.ok text.toUTF8) .longInteger :=
  have read := (readText_of_document h).2 none
  .longInteger read (longRun_of_readText read)

end Documents

/-! ## Every file -/

/-- A file yields records, is explained, or stops the program. -/
theorem file_cases (path : String) (file : Except FileError ByteArray) :
    (∃ records, Yields records file) ∨ (∃ message, Explained path file message) ∨
      ∃ crash, Stops file crash := by
  cases file with
  | error e => exact .inr (.inl ⟨_, .refused e⟩)
  | ok bytes =>
      by_cases hvalid : bytes.IsValidUTF8
      · obtain ⟨text, rfl⟩ := exists_toUTF8_eq hvalid
        cases hread : readText text with
        | ok document =>
            by_cases hlists : ∃ records, Lists records document
            · obtain ⟨records, lists⟩ := hlists
              exact .inl ⟨records, .text hread lists⟩
            · exact .inr (.inl ⟨_, .unlisted hread (not_exists.1 hlists)⟩)
        | error e =>
            cases e with
            | malformed fault place => exact .inr (.inl ⟨_, .malformed hread⟩)
            | longInteger =>
                exact .inr (.inr ⟨_, .longInteger hread (longRun_of_readText hread)⟩)
      · exact .inr (.inr ⟨_, .undecodable hvalid⟩)

end TaskQuery.Command
