import Mathlib.Data.List.Induction
import Mathlib.Data.List.Nodup
import TaskQuery.Proofs.Settings.Acceptance
/-!
# Case variants in a filter table

The names of a filter table are spelled in any case. Of the rows that spell one field only the
last one counts, with all its operators, and in a row the last spelling of an operator. So
nothing is sent that is not listed, but what an earlier spelling of a field lists is lost where
the last one does not list it too.
-/

namespace TaskQuery.Server

open Query (Operator)

variable {table : FilterTable} {listValued : List String} {c : Capabilities} {field key : String}
  {op : Operator} {operators : Entries String String} {read : Entries Operator String}

/-! ## Spellings -/

def spellsField (field : String) (row : String × Entries String String) : Bool :=
  Text.lower row.1 == field

def spellsOperator (op : Operator) (column : String × String) : Bool :=
  (operatorNamed column.1).toOption == some op

def lastRow? (table : FilterTable) (field : String) : Option (String × Entries String String) :=
  table.reverse.find? (spellsField field)

def lastColumn? (operators : Entries String String) (op : Operator) : Option (String × String) :=
  operators.reverse.find? (spellsOperator op)

theorem spellsField_iff {row : String × Entries String String} :
    spellsField field row = true ↔ Text.lower row.1 = field :=
  beq_iff_eq

theorem spellsOperator_iff {column : String × String} :
    spellsOperator op column = true ↔ operatorNamed column.1 = .ok op := by
  unfold spellsOperator
  cases operatorNamed column.1 with
  | error e => simp [Except.toOption]
  | ok found => simp [Except.toOption]

theorem find?_reverse_concat {α : Type} (p : α → Bool) (xs : List α) (x : α) :
    (xs ++ [x]).reverse.find? p = if p x then some x else xs.reverse.find? p := by
  rw [List.reverse_append, List.reverse_singleton, List.singleton_append, List.find?_cons]
  cases p x with
  | true => rfl
  | false => rfl

theorem lastRow?_concat (table : FilterTable) (row : String × Entries String String)
    (field : String) : lastRow? (table ++ [row]) field =
      if spellsField field row then some row else lastRow? table field :=
  find?_reverse_concat _ _ _

theorem lastColumn?_concat (operators : Entries String String) (column : String × String)
    (op : Operator) : lastColumn? (operators ++ [column]) op =
      if spellsOperator op column then some column else lastColumn? operators op :=
  find?_reverse_concat _ _ _

/-! ## What the reader of a table keeps -/

theorem get?_readOperators (h : Capabilities.readOperators operators = .ok read) (op : Operator) :
    read.get? op = (lastColumn? operators op).map Prod.snd := by
  induction operators using List.reverseRecOn generalizing read with
  | nil =>
      obtain rfl := Except.ok.inj h
      rfl
  | append_singleton operators column ih =>
      rw [Capabilities.readOperators, List.foldlM_append] at h
      obtain ⟨before, hbefore, hlast⟩ := bind_ok_iff.1 h
      obtain ⟨after, hafter, hread⟩ := bind_ok_iff.1 hlast
      obtain ⟨found, hfound, hput⟩ := bind_ok_iff.1 hafter
      obtain rfl := Except.ok.inj hput
      obtain rfl := Except.ok.inj hread
      rw [Entries.get?_put, ih hbefore, lastColumn?_concat]
      by_cases heq : found = op
      · rw [if_pos heq, if_pos (spellsOperator_iff.2 (heq ▸ hfound))]
        rfl
      · have hother : ¬ spellsOperator op column = true := by
          rw [spellsOperator_iff, hfound]
          exact fun hop => heq (Except.ok.inj hop)
        rw [if_neg heq, if_neg hother]

theorem get?_ofTable (h : Capabilities.ofTable table listValued = .ok c) (field : String) :
    match lastRow? table field with
    | some row => ∃ read, Capabilities.readOperators row.2 = .ok read ∧
        c.filters.get? field = some read
    | none => c.filters.get? field = none := by
  obtain ⟨filters, hfilters, hc⟩ := bind_ok_iff.1 h
  obtain rfl := Except.ok.inj hc
  clear h hc
  dsimp only
  induction table using List.reverseRecOn generalizing filters with
  | nil =>
      obtain rfl := Except.ok.inj hfilters
      rfl
  | append_singleton table row ih =>
      rw [List.foldlM_append] at hfilters
      obtain ⟨before, hbefore, hlast⟩ := bind_ok_iff.1 hfilters
      obtain ⟨after, hafter, hfilters⟩ := bind_ok_iff.1 hlast
      obtain ⟨read, hread, hput⟩ := bind_ok_iff.1 hafter
      obtain rfl := Except.ok.inj hput
      obtain rfl := Except.ok.inj hfilters
      rw [lastRow?_concat]
      by_cases hrow : spellsField field row = true
      · rw [if_pos hrow]
        exact ⟨read, hread, by rw [Entries.get?_put, if_pos (spellsField_iff.1 hrow)]⟩
      · rw [if_neg hrow, Entries.get?_put, if_neg (mt spellsField_iff.2 hrow)]
        exact ih before hbefore

theorem parameter?_ofTable (h : Capabilities.ofTable table listValued = .ok c) (field : String)
    (op : Operator) : c.parameter? field op =
      (lastRow? table field).bind fun row => (lastColumn? row.2 op).map Prod.snd := by
  have hrow := get?_ofTable h field
  unfold Capabilities.parameter?
  split at hrow
  · rename_i row hlast
    obtain ⟨read, hread, hget⟩ := hrow
    rw [hlast, hget]
    exact get?_readOperators hread op
  · rename_i hlast
    rw [hlast, hrow]
    rfl

theorem supportsField_ofTable (h : Capabilities.ofTable table listValued = .ok c)
    (field : String) : c.supportsField field = (lastRow? table field).isSome := by
  have hrow := get?_ofTable h field
  unfold Capabilities.supportsField Entries.has
  split at hrow
  · rename_i row hlast
    obtain ⟨read, -, hget⟩ := hrow
    rw [hlast, hget]
    rfl
  · rename_i hlast
    rw [hlast, hrow]
    rfl

/-! ## What is lost -/

/-- A table lists a parameter for some spelling of a field and some spelling of an operator. -/
def Lists (table : FilterTable) (field : String) (op : Operator) (key : String) : Prop :=
  ∃ row ∈ table, Text.lower row.1 = field ∧
    ∃ column ∈ row.2, operatorNamed column.1 = .ok op ∧ column.2 = key

theorem exists_lastRow? {row : String × Entries String String} (hrow : row ∈ table) :
    ∃ last, lastRow? table (Text.lower row.1) = some last := by
  rw [← Option.isSome_iff_exists, lastRow?, List.find?_isSome]
  exact ⟨row, List.mem_reverse.2 hrow, spellsField_iff.2 rfl⟩

theorem of_lastRow? {row : String × Entries String String} (h : lastRow? table field = some row) :
    row ∈ table ∧ Text.lower row.1 = field :=
  ⟨List.mem_reverse.1 (List.mem_of_find?_eq_some h), spellsField_iff.1 (List.find?_some h)⟩

theorem of_lastColumn? {column : String × String} (h : lastColumn? operators op = some column) :
    column ∈ operators ∧ operatorNamed column.1 = .ok op :=
  ⟨List.mem_reverse.1 (List.mem_of_find?_eq_some h), spellsOperator_iff.1 (List.find?_some h)⟩

theorem lastColumn?_eq_none_iff : lastColumn? operators op = none ↔
    ∀ column ∈ operators, operatorNamed column.1 ≠ .ok op := by
  simp only [lastColumn?, List.find?_eq_none, List.mem_reverse, spellsOperator_iff, ne_eq]

theorem lastRow?_of_distinct {row : String × Entries String String} (hrow : row ∈ table)
    (distinct : (table.map fun row => Text.lower row.1).Nodup) :
    lastRow? table (Text.lower row.1) = some row := by
  obtain ⟨last, hlast⟩ := exists_lastRow? hrow
  obtain ⟨hmem, hname⟩ := of_lastRow? hlast
  rw [hlast, List.inj_on_of_nodup_map distinct hmem hrow hname]

/-- What the reader of the capabilities makes of a table that it accepts. All fields are known in
lower case. For a field and an operator there is a parameter just if the last row that spells the
field lists one, and it is then one that the table lists. -/
structure DecidedByLast (table : FilterTable) (c : Capabilities) : Prop where
  known : ∀ row ∈ table, c.supportsField (Text.lower row.1) = true
  listed : ∀ field op key, c.parameter? field op = some key → Lists table field op key
  unlisted : ∀ field op, (∀ key, ¬ Lists table field op key) → c.parameter? field op = none
  /-- The operators of a row are found, unless the last row that spells the field lacks them. -/
  lost : ∀ row ∈ table, ∀ column ∈ row.2, ∃ op, operatorNamed column.1 = .ok op ∧
    (c.parameter? (Text.lower row.1) op = none ↔
      ∃ last, lastRow? table (Text.lower row.1) = some last ∧
        ∀ other ∈ last.2, operatorNamed other.1 ≠ .ok op)
  /-- Where no two rows spell the same field nothing is lost. -/
  distinct : (table.map fun row => Text.lower row.1).Nodup →
    ∀ row ∈ table, ∀ column ∈ row.2, ∃ op key, operatorNamed column.1 = .ok op ∧
      c.parameter? (Text.lower row.1) op = some key

/-- The last spelling of a field decides about all its operators. -/
theorem last_spelling_decides (table : FilterTable) (listValued : List String) (c : Capabilities)
    (accepted : Capabilities.ofTable table listValued = .ok c) : DecidedByLast table c := by
  have hnames : KnownOperators table :=
    (Capabilities.ofTable_ok_iff table listValued).1 ⟨c, accepted⟩
  have hlisted (field : String) (op : Operator) (key : String)
      (h : c.parameter? field op = some key) : Lists table field op key := by
    rw [parameter?_ofTable accepted] at h
    obtain ⟨row, hrow, hkey⟩ := Option.bind_eq_some_iff.1 h
    obtain ⟨column, hcolumn, hvalue⟩ := Option.map_eq_some_iff.1 hkey
    obtain ⟨hin, hfield⟩ := of_lastRow? hrow
    obtain ⟨hinside, hop⟩ := of_lastColumn? hcolumn
    exact ⟨row, hin, hfield, column, hinside, hop, hvalue⟩
  have hparameter {row last : String × Entries String String} {op : Operator}
      (hlast : lastRow? table (Text.lower row.1) = some last) :
      c.parameter? (Text.lower row.1) op = none ↔
        ∀ other ∈ last.2, operatorNamed other.1 ≠ .ok op := by
    rw [parameter?_ofTable accepted, hlast, Option.bind_some, Option.map_eq_none_iff,
      lastColumn?_eq_none_iff]
  refine ⟨fun row hrow => ?_, hlisted, fun field op hnone => ?_, fun row hrow column hcolumn => ?_,
    fun hdistinct row hrow column hcolumn => ?_⟩
  · rw [supportsField_ofTable accepted, Option.isSome_iff_exists]
    exact exists_lastRow? hrow
  · rw [Option.eq_none_iff_forall_ne_some]
    exact fun key hkey => hnone key (hlisted field op key hkey)
  · obtain ⟨op, hop⟩ := hnames row hrow column hcolumn
    obtain ⟨last, hlast⟩ := exists_lastRow? hrow
    refine ⟨op, hop, (hparameter hlast).trans ⟨fun h => ⟨last, hlast, h⟩, ?_⟩⟩
    rintro ⟨last', hlast', h⟩
    obtain rfl := Option.some.inj (hlast.symm.trans hlast')
    exact h
  · obtain ⟨op, hop⟩ := hnames row hrow column hcolumn
    have hsome : c.parameter? (Text.lower row.1) op ≠ none := by
      rw [Ne, hparameter (lastRow?_of_distinct hrow hdistinct)]
      exact fun h => h column hcolumn hop
    obtain ⟨key, hkey⟩ := Option.ne_none_iff_exists'.1 hsome
    exact ⟨op, key, hop, hkey⟩

/-! ## Two rows for one field -/

/-- A table with two spellings of one field and, in a row, of one operator. -/
def respelled : FilterTable :=
  [("Status", [("=", "status")]), ("tags", [("in", "labels"), ("IN", "tags")]),
    ("status", [("<", "before")])]

def respelledCapabilities : Capabilities :=
  { filters := [("status", [(.lt, "before")]), ("tags", [(.within, "tags")])]
    listValued := [] }

theorem last_spelling_decides_respelled :
    Capabilities.ofTable respelled [] = .ok respelledCapabilities ∧
      DecidedByLast respelled respelledCapabilities := by
  have accepted : Capabilities.ofTable respelled [] = .ok respelledCapabilities := by rfl
  exact ⟨accepted, last_spelling_decides _ _ _ accepted⟩

/-- The table lists `=` for a spelling of `status`, and it is not found. -/
theorem respelled_lost :
    Capabilities.ofTable respelled [] = .ok respelledCapabilities ∧
      Lists respelled "status" .eq "status" ∧
      respelledCapabilities.supportsField "status" = true ∧
      respelledCapabilities.parameter? "status" .eq = none := by
  refine ⟨rfl, ⟨("Status", [("=", "status")]), by simp [respelled], by rfl, ?_⟩,
    rfl, rfl⟩
  exact ⟨("=", "status"), by simp, rfl, rfl⟩

end TaskQuery.Server
