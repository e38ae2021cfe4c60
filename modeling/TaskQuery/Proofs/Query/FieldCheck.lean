import TaskQuery.Proofs.Query.Recognition
import TaskQuery.Proofs.Query.Scanning
import TaskQuery.Selector
/-!
# The field check and the reader

The field check runs over the tokens alone, the reader builds a tree. They agree on every
query: the check refuses no null test of the grammar, and both note the same fields.
-/

namespace TaskQuery.Query

open Grammar

/-! ## Null tests -/

/-- Every `IS` has `NULL` or `NOT` behind it. -/
def NullTests : List Token → Prop
  | [] => True
  | t :: rest =>
      (t.kind = .is → ∃ next ∈ rest.head?, next.kind = .null ∨ next.kind = .not) ∧
        NullTests rest

theorem NullTests.of_no_is {tokens : List Token} (h : ∀ t ∈ tokens, t.kind ≠ .is) :
    NullTests tokens := by
  induction tokens with
  | nil => trivial
  | cons t rest ih =>
      refine ⟨fun hk => absurd hk (h t (by simp)), ?_⟩
      exact ih fun u hu => h u (List.mem_cons_of_mem t hu)

theorem NullTests.append {a b : List Token} (ha : NullTests a) (hb : NullTests b) :
    NullTests (a ++ b) := by
  induction a with
  | nil => exact hb
  | cons t rest ih =>
      rw [List.cons_append]
      refine ⟨fun hk => ?_, ih ha.2⟩
      obtain ⟨next, hnext, hkind⟩ := ha.1 hk
      refine ⟨next, ?_, hkind⟩
      rw [List.head?_append, hnext]
      rfl

theorem NullTests.cons {t : Token} {rest : List Token} (h : t.kind ≠ .is)
    (hr : NullTests rest) : NullTests (t :: rest) :=
  ⟨fun hk => absurd hk h, hr⟩

theorem Grammar.Test.nullTests (test : Test) : NullTests test.tokens := by
  have hlisting : ∀ listing : Listing, NullTests listing.tokens := by
    intro listing
    apply NullTests.of_no_is
    intro t ht hk
    have h := Listing.isListKind_of_mem t ht
    rw [hk] at h
    exact absurd h (by decide)
  have hvalue : ∀ v : ValueWord, v.token.kind ≠ .is := by
    intro v hk
    have h := v.isListKind
    rw [hk] at h
    exact absurd h (by decide)
  cases test with
  | isNull is null => simp [Test.tokens, NullTests, null.2]
  | isNotNull is not null => simp [Test.tokens, NullTests, not.2, null.2]
  | within word listing => exact (hlisting listing).cons (by rw [word.2]; decide)
  | notWithin not word listing =>
      exact ((hlisting listing).cons (by rw [word.2]; decide)).cons (by rw [not.2]; decide)
  | between word low and high =>
      simp [Test.tokens, NullTests, word.2, and.2, hvalue low, hvalue high]
  | binary sign value =>
      have hsign : sign.token.kind ≠ .is := by
        intro hk
        have h := sign.op_eq
        rw [hk] at h
        exact absurd h (by simp [Operator.ofToken?])
      simp [Test.tokens, NullTests, hsign, hvalue value]

theorem Grammar.Derivation.nullTests {s : Symbol} (d : Derivation s) : NullTests d.tokens := by
  induction d with
  | disjunct only ih => exact ih
  | conjunct only ih => exact ih
  | bare only ih => exact ih
  | or front word last ihf ihl => exact ihf.append (ihl.cons (by rw [word.2]; decide))
  | and front word last ihf ihl => exact ihf.append (ihl.cons (by rw [word.2]; decide))
  | not word operand ih => exact ih.cons (by rw [word.2]; decide)
  | group opening inner closing ih =>
      have hclosing : NullTests [closing.1] := by simp [NullTests, closing.2]
      exact (ih.cons (by rw [opening.2]; decide)).append hclosing
  | comparison field test => exact test.nullTests.cons (by rw [field.2]; decide)

/-! ## The errors of the check -/

namespace Vocabulary

variable (v : Vocabulary)

theorem errorAt?_eq_none_iff (t : Token) (following : Option Token) :
    v.errorAt? t following = none ↔
      (t.kind = .identifier → Text.lower t.text ∈ v.fields) ∧
        (t.kind = .is → ∃ next ∈ following, next.kind = .null ∨ next.kind = .not) := by
  cases hk : t.kind
  case identifier => simp [errorAt?, hk]
  case is =>
      cases following with
      | none => simp [errorAt?, hk]
      | some next => simp [errorAt?, hk, or_iff_not_imp_left]
  all_goals simp [errorAt?, hk]

theorem errorAt?_cases {v : Vocabulary} {t : Token} {following : Option Token} {e : FieldError}
    (h : v.errorAt? t following = some e) :
    (t.kind = .identifier ∧ e = .unknownField t.text t.position v.fields
        (v.suggestion? (Text.lower t.text))) ∨
      (t.kind = .is ∧ e = .strayIs t.position) := by
  unfold errorAt? at h
  split at h
  · rename_i hk
    dsimp only at h
    split at h
    · cases h
    · exact .inl ⟨hk, (Option.some.inj h).symm⟩
  · rename_i hk
    refine .inr ⟨hk, ?_⟩
    split at h
    · split at h
      · cases h
      · exact (Option.some.inj h).symm
    · exact (Option.some.inj h).symm
  · cases h

/-- The check finds no error exactly if all fields are known and every `IS` begins a null
test. -/
theorem errors_eq_nil_iff (tokens : List Token) :
    v.errors tokens = [] ↔ NullTests tokens ∧ ∀ field ∈ fieldNames tokens, field ∈ v.fields := by
  induction tokens with
  | nil => simp [errors, NullTests, fieldNames]
  | cons t rest ih =>
      have hfields : (∀ field ∈ fieldNames (t :: rest), field ∈ v.fields) ↔
          (t.kind = .identifier → Text.lower t.text ∈ v.fields) ∧
            ∀ field ∈ fieldNames rest, field ∈ v.fields := by
        by_cases hk : t.kind = .identifier
        · simp [fieldNames_identifier hk, hk]
        · simp [fieldNames_other hk, hk]
      rw [errors, List.append_eq_nil_iff, Option.toList_eq_nil_iff, v.errorAt?_eq_none_iff, ih,
        hfields, NullTests]
      constructor
      · rintro ⟨⟨hname, his⟩, hrest, hnames⟩
        exact ⟨⟨his, hrest⟩, hname, hnames⟩
      · rintro ⟨⟨his, hrest⟩, hname, hnames⟩
        exact ⟨⟨hname, his⟩, hrest, hnames⟩

theorem errorAt?_ne_strayIs {t : Token} {following : Option Token} (position : Nat)
    (h : t.kind = .is → ∃ next ∈ following, next.kind = .null ∨ next.kind = .not) :
    v.errorAt? t following ≠ some (.strayIs position) := by
  intro hstray
  rcases errorAt?_cases hstray with ⟨-, heq⟩ | ⟨hk, -⟩
  · cases heq
  · have hnone : v.errorAt? t following = none :=
      (v.errorAt?_eq_none_iff t following).2 ⟨by simp [hk], h⟩
    rw [hnone] at hstray
    cases hstray

theorem strayIs_not_mem {tokens : List Token} (h : NullTests tokens) (position : Nat) :
    .strayIs position ∉ v.errors tokens := by
  induction tokens with
  | nil => simp [errors]
  | cons t rest ih =>
      rw [errors, List.mem_append, Option.mem_toList]
      rintro (hmem | hmem)
      · exact v.errorAt?_ne_strayIs position h.1 hmem
      · exact ih h.2 hmem

end Vocabulary

theorem namedFields_append_end (tokens : List Token) {stop : Token}
    (hs : stop.kind = .endOfInput) : namedFields (tokens ++ [stop]) = namedFields tokens := by
  have h : fieldNames (tokens ++ [stop]) = fieldNames tokens := by
    rw [fieldNames_append, fieldNames_other (by rw [hs]; decide)]
    simp [fieldNames]
  exact congrArg distinct h

end TaskQuery.Query

namespace TaskQuery.Selector

open Query Grammar

variable (s : Settings) {text : String} {tokens : List Token}

/-! ## The stages -/

theorem validate_of_tokenize (h : tokenize text = .ok tokens) :
    validate s text =
      { tokens
        errors := (s.vocabulary.errors tokens).map .field
        fields := namedFields tokens } := by
  rw [validate, h]
  rfl

theorem parse_of_errors (h : tokenize text = .ok tokens) (he : s.vocabulary.errors tokens ≠ []) :
    parse s text =
      { tree := .empty
        fields := namedFields tokens
        errors := (s.vocabulary.errors tokens).map .field } := by
  rw [parse, h]
  exact if_neg (by simpa [Vocabulary.check] using he)

theorem parse_of_no_errors (h : tokenize text = .ok tokens)
    (he : s.vocabulary.errors tokens = []) : parse s text = ofOutcome (parseTokens tokens) := by
  rw [parse, h]
  exact if_pos (by simpa [Vocabulary.check] using he)

theorem ofOutcome_errors_eq_nil_iff (o : Parse.Outcome) :
    (ofOutcome o).errors = [] ↔ o.error = none := by
  simp [ofOutcome]

theorem compile_of_no_errors (h : (parse s text).errors = []) :
    compile s text = s.capabilities >>= fun c => .ok (Server.compile c (parse s text).tree) := by
  unfold compile
  exact if_pos (List.isEmpty_iff.2 h)

theorem compile_of_errors (h : (parse s text).errors ≠ []) :
    compile s text = .ok { errors := (parse s text).errors.map QueryError.message } := by
  unfold compile
  exact if_neg (by rwa [List.isEmpty_iff])

theorem derivation_of_tokenize (h : tokenize text = .ok tokens)
    (ha : (parseTokens tokens).error = none) :
    ∃ (d : Derivation .disjunction) (stop : Token), stop.kind = .endOfInput ∧
      tokens = d.tokens ++ [stop] := by
  obtain ⟨inner, position, rfl, hinner⟩ := tokenize_ends h
  obtain ⟨d, rfl⟩ := (parseTokens_error_iff hinner (.atEnd position) rfl).1 ha
  exact ⟨d, .atEnd position, rfl, rfl⟩

theorem nullTests_of_tokenize (h : tokenize text = .ok tokens)
    (ha : (parseTokens tokens).error = none) : NullTests tokens := by
  obtain ⟨d, stop, hs, rfl⟩ := derivation_of_tokenize h ha
  have hstop : NullTests [stop] := by simp [NullTests, hs]
  exact d.nullTests.append hstop

/-! ## Agreement -/

theorem parse_errors_eq_nil_iff :
    (parse s text).errors = [] ↔ ∃ tokens, tokenize text = .ok tokens ∧
      (parseTokens tokens).error = none ∧
        ∀ t ∈ tokens, t.kind = .identifier → Text.lower t.text ∈ s.validFields := by
  cases h : tokenize text with
  | error e => simp [parse, h]
  | ok tokens =>
      have hknown : (∀ field ∈ fieldNames tokens, field ∈ s.vocabulary.fields) ↔
          ∀ t ∈ tokens, t.kind = .identifier → Text.lower t.text ∈ s.validFields :=
        forall_mem_fieldNames
      have herrors := s.vocabulary.errors_eq_nil_iff tokens
      constructor
      · intro hp
        by_cases he : s.vocabulary.errors tokens = []
        · rw [parse_of_no_errors s h he, ofOutcome_errors_eq_nil_iff] at hp
          exact ⟨tokens, rfl, hp, hknown.1 (herrors.1 he).2⟩
        · rw [parse_of_errors s h he] at hp
          exact absurd (List.map_eq_nil_iff.1 hp) he
      · rintro ⟨tokens, heq, ha, hn⟩
        obtain rfl := Except.ok.inj heq
        have he := herrors.2 ⟨nullTests_of_tokenize h ha, hknown.2 hn⟩
        rw [parse_of_no_errors s h he, ofOutcome_errors_eq_nil_iff]
        exact ha

theorem parse_eq_ofOutcome (h : (parse s text).errors = []) :
    ∃ tokens, tokenize text = .ok tokens ∧ (parseTokens tokens).error = none ∧
      parse s text = ofOutcome (parseTokens tokens) := by
  obtain ⟨tokens, ht, ha, -⟩ := (parse_errors_eq_nil_iff s).1 h
  refine ⟨tokens, ht, ha, parse_of_no_errors s ht ?_⟩
  by_contra he
  rw [parse_of_errors s ht he] at h
  exact he (List.map_eq_nil_iff.1 h)

theorem parse_fields (h : (parse s text).errors = []) :
    (parse s text).fields = (validate s text).fields ∧
      (∀ field, field ∈ (parse s text).fields ↔ field ∈ (parse s text).tree.fields) ∧
      ∀ field ∈ (parse s text).fields, field ∈ s.validFields := by
  obtain ⟨tokens, ht, ha, hp⟩ := parse_eq_ofOutcome s h
  obtain ⟨tokens', ht', -, hn⟩ := (parse_errors_eq_nil_iff s).1 h
  obtain rfl := Except.ok.inj (ht.symm.trans ht')
  rw [hp, validate_of_tokenize s ht]
  obtain ⟨d, stop, hs, rfl⟩ := derivation_of_tokenize ht ha
  rw [parseTokens_derivation d stop hs [], namedFields_append_end _ hs]
  refine ⟨rfl, ?_, ?_⟩
  · intro field
    exact mem_namedFields.trans (by rw [d.fieldNames_tokens]; rfl)
  · intro field hf
    have hinner : ∀ t ∈ d.tokens, t.kind = .identifier → Text.lower t.text ∈ s.validFields :=
      fun t ht => hn t (List.mem_append_left _ ht)
    exact forall_mem_fieldNames.2 hinner field (mem_namedFields.1 hf)

theorem parse_of_validate_errors (h : (validate s text).errors ≠ []) :
    (parse s text).errors = (validate s text).errors ∧
      (parse s text).fields = (validate s text).fields ∧ (parse s text).tree = .empty := by
  cases ht : tokenize text with
  | error e => simp [parse, validate, ht]
  | ok tokens =>
      rw [validate_of_tokenize s ht] at h ⊢
      rw [parse_of_errors s ht (by simpa using h)]
      exact ⟨rfl, rfl, rfl⟩

theorem parse_errors_length_le (h : (validate s text).errors = []) :
    (parse s text).errors.length ≤ 1 := by
  cases ht : tokenize text with
  | error e => simp [parse, ht]
  | ok tokens =>
      rw [validate_of_tokenize s ht] at h
      rw [parse_of_no_errors s ht (List.map_eq_nil_iff.1 h), ofOutcome]
      cases (parseTokens tokens).error <;> simp

theorem strayIs_not_mem_validate (h : tokenize text = .ok tokens)
    (ha : (parseTokens tokens).error = none) (position : Nat) :
    .field (.strayIs position) ∉ (validate s text).errors := by
  rw [validate_of_tokenize s h]
  intro hmem
  obtain ⟨e, he, heq⟩ := List.mem_map.1 hmem
  obtain rfl := QueryError.field.inj heq
  exact s.vocabulary.strayIs_not_mem (nullTests_of_tokenize h ha) position he

/-- A text is accepted exactly if it is a query over the vocabulary, and then both
collectors find the fields of its tree. The check reports no stray `IS` in a query; what
it reports is all that is reported, and without it there is at most one error. -/
theorem accepts_over_vocabulary (s : Settings) (text : String) :
    ((parse s text).errors = [] ↔ ∃ tokens, tokenize text = .ok tokens ∧
        (parseTokens tokens).error = none ∧
          ∀ t ∈ tokens, t.kind = .identifier → Text.lower t.text ∈ s.validFields) ∧
      (∀ tokens, tokenize text = .ok tokens → (parseTokens tokens).error = none →
        ∀ position, .field (.strayIs position) ∉ (validate s text).errors) ∧
      ((parse s text).errors = [] →
        (parse s text).fields = (validate s text).fields ∧
          (∀ field, field ∈ (parse s text).fields ↔ field ∈ (parse s text).tree.fields) ∧
          ∀ field ∈ (parse s text).fields, field ∈ s.validFields) ∧
      ((validate s text).errors ≠ [] →
        (parse s text).errors = (validate s text).errors ∧
          (parse s text).fields = (validate s text).fields ∧ (parse s text).tree = .empty) ∧
      ((validate s text).errors = [] → (parse s text).errors.length ≤ 1) := by
  refine ⟨parse_errors_eq_nil_iff s, ?_, parse_fields s, parse_of_validate_errors s,
    parse_errors_length_le s⟩
  intro tokens h ha position
  exact strayIs_not_mem_validate s h ha position

end TaskQuery.Selector
