import Mathlib.Data.List.Forall2
import Mathlib.Data.List.Nodup
import Mathlib.Logic.Function.Iterate
import TaskQuery.Proofs.Query.FieldCheck
import TaskQuery.Proofs.Text.NearMatch
/-!
# What the field check reports

The check goes over the tokens once, with the next token in sight. It finds one error at each
offending place and none elsewhere, and the message of an unknown field names the earliest
known field that the fewest edits lead to. What an earlier call has found does not matter.
-/

namespace TaskQuery.Query

open Grammar Parse

variable {v : Vocabulary} {tokens rest : List Token} {t : Token} {i : Nat}

/-! ## Offending places -/

/-- A place with an unknown field, or with an `IS` that neither `NULL` nor `NOT` follows. -/
def Vocabulary.Offends (v : Vocabulary) (tokens : List Token) (i : Nat) : Prop :=
  ∃ t, tokens[i]? = some t ∧
    (t.kind = .identifier ∧ Text.lower t.text ∉ v.fields ∨
      t.kind = .is ∧ ∀ next, tokens[i + 1]? = some next → next.kind ≠ .null ∧ next.kind ≠ .not)

/-- A text that tells what is wrong at a place. A field is suggested for an unknown one if few
enough edits lead to it, and otherwise all fields are listed. -/
inductive Vocabulary.Explains (v : Vocabulary) (tokens : List Token) (i : Nat) : String → Prop where
  | suggestion {t : Token} {known : String} (token : tokens[i]? = some t)
      (kind : t.kind = .identifier)
      (suggested : Text.Suggested (Text.lower t.text) v.fields v.threshold known) :
      Explains v tokens i ("Unknown field: '" ++ t.text ++ "'. Did you mean '" ++ known ++
        s!"'? (at position {t.position})")
  | listing {t : Token} (token : tokens[i]? = some t) (kind : t.kind = .identifier)
      (far : ∀ known ∈ v.fields, ∀ n, Text.Apart (Text.lower t.text) known n → v.threshold < n) :
      Explains v tokens i ("Unknown field: '" ++ t.text ++ "'. Valid fields: " ++
        ", ".intercalate v.fields ++ s!" (at position {t.position})")
  | strayIs {t : Token} (token : tokens[i]? = some t) (kind : t.kind = .is) :
      Explains v tokens i
        s!"IS keyword must be followed by NULL or NOT NULL at position {t.position}"

namespace Vocabulary

theorem offends_succ : v.Offends (t :: rest) (i + 1) ↔ v.Offends rest i :=
  Iff.rfl

theorem Explains.succ {message : String} (h : v.Explains rest i message) :
    v.Explains (t :: rest) (i + 1) message := by
  cases h with
  | suggestion token kind suggested => exact .suggestion token kind suggested
  | listing token kind far => exact .listing token kind far
  | strayIs token kind => exact .strayIs token kind

theorem offends_zero : v.Offends (t :: rest) 0 ↔ v.errorAt? t rest.head? ≠ none := by
  have hnext : (t :: rest)[0 + 1]? = rest.head? := List.head?_eq_getElem?.symm
  unfold Offends
  rw [Ne, v.errorAt?_eq_none_iff, hnext]
  constructor
  · rintro ⟨u, hu, hoffence⟩ ⟨hknown, htest⟩
    obtain rfl := Option.some.inj hu
    rcases hoffence with ⟨hk, hunknown⟩ | ⟨hk, hstray⟩
    · exact hunknown (hknown hk)
    · obtain ⟨next, hmem, hkind⟩ := htest hk
      obtain ⟨hnull, hnot⟩ := hstray next hmem
      exact hkind.elim hnull hnot
  · intro h
    refine ⟨t, rfl, ?_⟩
    by_contra hno
    rw [not_or] at hno
    refine h ⟨fun hk => by_contra fun hunknown => hno.1 ⟨hk, hunknown⟩, fun hk => ?_⟩
    by_contra htest
    refine hno.2 ⟨hk, fun next hmem => ?_⟩
    rw [← not_or]
    exact fun hkind => htest ⟨next, hmem, hkind⟩

/-- A known name is never empty, so none is left out as a suggestion. -/
theorem suggestion?_eq (named : ∀ known ∈ v.fields, known ≠ "") (field : String) :
    v.suggestion? field = Text.closest? field v.fields v.threshold := by
  unfold suggestion?
  cases h : Text.closest? field v.fields v.threshold with
  | none => rfl
  | some known =>
      have hne := named known (Text.closest?_eq_some_iff.1 h).2.mem
      simp [Option.filter, hne]

theorem exists_errorAt? {e : FieldError} (h : e ∈ v.errors tokens) :
    ∃ t ∈ tokens, ∃ following, v.errorAt? t following = some e := by
  induction tokens with
  | nil => cases h
  | cons t rest ih =>
      rw [errors] at h
      rcases List.mem_append.1 h with hfirst | hrest
      · exact ⟨t, List.mem_cons_self, rest.head?, Option.mem_toList.1 hfirst⟩
      · obtain ⟨u, hu, hfollowing⟩ := ih hrest
        exact ⟨u, List.mem_cons_of_mem t hu, hfollowing⟩

theorem explains_zero (named : ∀ known ∈ v.fields, known ≠ "") {e : FieldError}
    (h : v.errorAt? t rest.head? = some e) : v.Explains (t :: rest) 0 e.message := by
  rcases errorAt?_cases h with ⟨hk, rfl⟩ | ⟨hk, rfl⟩
  · rw [suggestion?_eq named]
    cases hc : Text.closest? (Text.lower t.text) v.fields v.threshold with
    | none => exact .listing rfl hk (Text.closest?_eq_none_iff_apart.1 hc)
    | some known => exact .suggestion rfl hk (Text.closest?_eq_some_iff_suggested.1 hc)
  · exact .strayIs rfl hk

theorem errors_explain (named : ∀ known ∈ v.fields, known ≠ "") (tokens : List Token) :
    ∃ places : List Nat, places.Pairwise (· < ·) ∧ (∀ i, i ∈ places ↔ v.Offends tokens i) ∧
      List.Forall₂ (fun i e => v.Explains tokens i e.message) places (v.errors tokens) := by
  induction tokens with
  | nil => exact ⟨[], .nil, fun i => by simp [Offends], .nil⟩
  | cons t rest ih =>
      obtain ⟨places, hordered, hmem, hexplains⟩ := ih
      have hlater : (places.map (· + 1)).Pairwise (· < ·) :=
        hordered.map _ fun _ _ hlt => Nat.succ_lt_succ hlt
      have hrest : List.Forall₂ (fun i e => v.Explains (t :: rest) i e.message)
          (places.map (· + 1)) (v.errors rest) := by
        rw [List.forall₂_map_left_iff]
        exact hexplains.imp fun _ _ h => h.succ
      have hsucc : ∀ i, i + 1 ∈ places.map (· + 1) ↔ v.Offends (t :: rest) (i + 1) := by
        intro i
        rw [offends_succ, ← hmem]
        simp
      rw [errors]
      cases herror : v.errorAt? t rest.head? with
      | none =>
          refine ⟨places.map (· + 1), hlater, fun i => ?_, hrest⟩
          cases i with
          | zero =>
              rw [offends_zero, herror]
              simp
          | succ i => exact hsucc i
      | some e =>
          refine ⟨0 :: places.map (· + 1), ?_, fun i => ?_,
            .cons (explains_zero named herror) hrest⟩
          · rw [List.pairwise_cons]
            refine ⟨fun j hj => ?_, hlater⟩
            obtain ⟨i, -, rfl⟩ := List.mem_map.1 hj
            exact Nat.succ_pos i
          · cases i with
            | zero =>
                rw [offends_zero, herror]
                simp
            | succ i =>
                rw [List.mem_cons, ← hsucc i]
                simp

end Vocabulary

/-! ## The fields -/

theorem nodup_noted {seen : List String} (h : seen.Nodup) (name : String) :
    (noted seen name).Nodup := by
  unfold noted
  split
  · exact h
  · rename_i hnew
    rw [← List.concat_eq_append]
    exact h.concat fun hmem => hnew (List.contains_iff_mem.2 hmem)

theorem nodup_namedFields (tokens : List Token) : (namedFields tokens).Nodup := by
  have hrun : ∀ names seen : List String, seen.Nodup → (names.foldl noted seen).Nodup := by
    intro names
    induction names with
    | nil => exact fun seen h => h
    | cons name rest ih => exact fun seen h => ih _ (nodup_noted h name)
  exact hrun (fieldNames tokens) [] List.nodup_nil

/-! ## Calls of the check -/

namespace Checker

variable {m : Checker}

theorem visitAll_eq (m : Checker) (tokens : List Token) : m.visitAll tokens =
    { m with
      found :=
        { errors := m.found.errors ++ m.vocabulary.errors tokens
          fields := (fieldNames tokens).foldl noted m.found.fields } } := by
  induction tokens generalizing m with
  | nil => simp [visitAll, Vocabulary.errors, fieldNames]
  | cons t rest ih =>
      rw [visitAll, ih, Vocabulary.errors]
      by_cases hk : t.kind = .identifier
      · simp [visit, noted, fieldNames_identifier hk, hk]
      · simp [visit, fieldNames_other hk, hk]

/-- A call finds what the check of the tokens finds, whatever was found before. -/
theorem analyze_eq (m : Checker) : m.analyze =
    (m.vocabulary.check m.tokens, { m with found := m.vocabulary.check m.tokens }) := by
  unfold analyze
  rw [visitAll_eq]
  rfl

theorem analyze_iterate (m : Checker) (n : Nat) :
    ((fun m : Checker => m.analyze.2)^[n] m).analyze.1 = m.analyze.1 := by
  induction n generalizing m with
  | zero => rfl
  | succ n ih =>
      rw [Function.iterate_succ_apply, ih, analyze_eq, analyze_eq]

/-- A check gives one error for each offending token, in token order, with a message that
explains it, and each field once that is named. Further calls give the same. -/
theorem analyze_reports (m : Checker) (named : ∀ known ∈ m.vocabulary.fields, known ≠ "") :
    (∃ places : List Nat, places.Pairwise (· < ·) ∧
        (∀ i, i ∈ places ↔ m.vocabulary.Offends m.tokens i) ∧
        List.Forall₂ (fun i e => m.vocabulary.Explains m.tokens i e.message) places
          m.analyze.1.errors) ∧
      m.analyze.1.fields.Nodup ∧
      (∀ field, field ∈ m.analyze.1.fields ↔
        ∃ t ∈ m.tokens, t.kind = .identifier ∧ Text.lower t.text = field) ∧
      m.analyze.1 = m.vocabulary.check m.tokens ∧
      ∀ n, ((fun m : Checker => m.analyze.2)^[n] m).analyze.1 = m.analyze.1 := by
  refine ⟨?_, ?_, ?_, ?_, m.analyze_iterate⟩
  · rw [analyze_eq]
    exact Vocabulary.errors_explain named m.tokens
  · rw [analyze_eq]
    exact nodup_namedFields m.tokens
  · intro field
    rw [analyze_eq]
    exact mem_namedFields.trans mem_fieldNames
  · rw [analyze_eq]

/-- The check of `priorty IS`, whose field is misspelled and whose `IS` has nothing behind it. -/
def misspelled : Checker :=
  { vocabulary := .standard
    tokens :=
      [{ kind := .identifier, text := "priorty", position := 0, length := 7 },
        { kind := .is, text := "IS", position := 8, length := 2 }] }

theorem misspelled_reported :
    (∀ known ∈ misspelled.vocabulary.fields, known ≠ "") ∧
      ∃ places : List Nat, (∀ i, i ∈ places ↔ misspelled.vocabulary.Offends misspelled.tokens i) ∧
        List.Forall₂
          (fun i e => misspelled.vocabulary.Explains misspelled.tokens i e.message) places
          misspelled.analyze.1.errors ∧
        misspelled.analyze.1.errors.map FieldError.message =
          ["Unknown field: 'priorty'. Did you mean 'priority'? (at position 0)",
            "IS keyword must be followed by NULL or NOT NULL at position 8"] := by
  have named : ∀ known ∈ misspelled.vocabulary.fields, known ≠ "" := by decide
  obtain ⟨⟨places, -, hmem, hexplains⟩, -⟩ := analyze_reports misspelled named
  exact ⟨named, places, hmem, hexplains, by decide +kernel⟩

end Checker

end TaskQuery.Query
