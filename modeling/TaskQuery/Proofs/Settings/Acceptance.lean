import TaskQuery.Settings.Reader
/-!
# Settings that were accepted

Two places look at the operators of a filter table: the check of the settings, and the
reader of the capabilities. They refuse the same tables, so the settings that the check has
accepted describe a server.
-/

namespace TaskQuery

namespace Server

def IsOperatorName (name : String) : Prop :=
  ∃ op, operatorNamed name = .ok op

def KnownOperators (table : FilterTable) : Prop :=
  ∀ row ∈ table, ∀ column ∈ row.2, IsOperatorName column.1

theorem isOperatorName_iff {name : String} :
    IsOperatorName name ↔ (operatorNamed name).toOption.isNone = false := by
  unfold IsOperatorName
  cases operatorNamed name with
  | error e => simp [Except.toOption]
  | ok op => simp [Except.toOption]

section Computations

variable {α β ε : Type}

theorem bind_ok_iff {x : Except ε α} {f : α → Except ε β} {b : β} :
    x >>= f = .ok b ↔ ∃ a, x = .ok a ∧ f a = .ok b := by
  cases x with
  | error e => simp [bind, Except.bind]
  | ok a => simp [bind, Except.bind]

theorem map_ok_iff {x : Except ε α} {g : α → β} :
    (∃ b, (x >>= fun a => pure (g a)) = .ok b) ↔ ∃ a, x = .ok a := by
  constructor
  · rintro ⟨b, h⟩
    obtain ⟨a, ha, -⟩ := bind_ok_iff.1 h
    exact ⟨a, ha⟩
  · rintro ⟨a, ha⟩
    exact ⟨g a, bind_ok_iff.2 ⟨a, ha, rfl⟩⟩

/-- A fold succeeds if each of its steps does, whatever was gathered before. -/
theorem foldlM_ok_iff {step : β → α → Except ε β} {Good : α → Prop}
    (hstep : ∀ gathered a, (∃ next, step gathered a = .ok next) ↔ Good a) (xs : List α)
    (start : β) : (∃ last, xs.foldlM step start = .ok last) ↔ ∀ a ∈ xs, Good a := by
  induction xs generalizing start with
  | nil => exact ⟨fun _ a ha => absurd ha List.not_mem_nil, fun _ => ⟨start, rfl⟩⟩
  | cons a rest ih =>
      rw [List.foldlM_cons, List.forall_mem_cons, ← hstep start a]
      constructor
      · rintro ⟨last, h⟩
        obtain ⟨next, hnext, hlast⟩ := bind_ok_iff.1 h
        exact ⟨⟨next, hnext⟩, (ih next).1 ⟨last, hlast⟩⟩
      · rintro ⟨⟨next, hnext⟩, hrest⟩
        obtain ⟨last, hlast⟩ := (ih next).2 hrest
        exact ⟨last, bind_ok_iff.2 ⟨next, hnext, hlast⟩⟩

end Computations

namespace Capabilities

theorem readOperators_ok_iff (operators : Entries String String) :
    (∃ read, readOperators operators = .ok read) ↔
      ∀ column ∈ operators, IsOperatorName column.1 := by
  apply foldlM_ok_iff
  intro read column
  exact map_ok_iff

theorem ofTable_ok_iff (table : FilterTable) (listValued : List String) :
    (∃ c, ofTable table listValued = .ok c) ↔ KnownOperators table := by
  unfold ofTable
  rw [map_ok_iff]
  apply foldlM_ok_iff
  intro read row
  rw [map_ok_iff, readOperators_ok_iff]

end Capabilities

end Server

namespace Settings

open Server

variable {s : Settings}

/-- The standard settings, and those that the reader of settings has made. -/
def Accepted (s : Settings) : Prop :=
  s = .standard ∨ ∃ given environment, read given environment = .ok s

theorem unknownOperator?_eq_none_iff (table : FilterTable) :
    unknownOperator? table = none ↔ KnownOperators table := by
  unfold unknownOperator? KnownOperators
  simp only [List.findSome?_eq_none_iff, Option.map_eq_none_iff, List.find?_eq_none,
    isOperatorName_iff, Bool.not_eq_true]

theorem knownOperators_of_checkFilters {path : List String} {value : Value}
    {table : FilterTable} (h : checkFilters path value = .ok table) : KnownOperators table := by
  unfold checkFilters at h
  cases value with
  | mapping entries =>
      obtain ⟨found, -, hfound⟩ := bind_ok_iff.1 h
      split at hfound
      · cases hfound
      · rename_i hnone
        obtain rfl := Except.ok.inj hfound
        exact (unknownOperator?_eq_none_iff found).1 hnone
  | _ => cases h

theorem knownOperators_standard : KnownOperators standard.serverFilters :=
  (unknownOperator?_eq_none_iff _).1 rfl

theorem knownOperators_of_checked {values : List (String × Value)} {table : FilterTable}
    (h : checked values .serverFilters checkFilters standard.serverFilters = .ok table) :
    KnownOperators table := by
  unfold checked at h
  split at h
  · obtain rfl := Except.ok.inj h
    exact knownOperators_standard
  · exact knownOperators_of_checkFilters h

theorem knownOperators_of_check {values : List (String × Value)} (h : check values = .ok s) :
    KnownOperators s.serverFilters := by
  unfold check at h
  dsimp only at h
  split at h
  · rename_i hfilters hlists hthreshold hlevel
    obtain rfl := Except.ok.inj h
    exact knownOperators_of_checked hfilters
  · cases h

theorem Accepted.knownOperators (accepted : s.Accepted) : KnownOperators s.serverFilters := by
  rcases accepted with rfl | ⟨given, environment, h⟩
  · exact knownOperators_standard
  · unfold read at h
    obtain ⟨found, -, hchecked⟩ := bind_ok_iff.1 h
    split at hchecked
    · rename_i hcheck
      obtain rfl := Except.ok.inj hchecked
      exact knownOperators_of_check hcheck
    · cases hchecked

theorem Accepted.capabilities (accepted : s.Accepted) : ∃ c, s.capabilities = .ok c :=
  (Capabilities.ofTable_ok_iff _ _).2 accepted.knownOperators

end Settings

end TaskQuery
