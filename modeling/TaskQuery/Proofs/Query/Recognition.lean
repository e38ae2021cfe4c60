import TaskQuery.Proofs.Number.Numeral
import TaskQuery.Proofs.Query.Completeness
import TaskQuery.Proofs.Query.Soundness
/-!
# The reader recognises the grammar

A list of tokens before the end of the input is accepted exactly if it is derivable, its
derivation is unique, and the tree returned is the one that the derivation denotes.
-/

namespace TaskQuery.Query

open Grammar Parse

/-! ## Derivable tokens -/

theorem derivation_advances (d : Derivation .disjunction) : ∃ last operand,
    advance? .start d.tokens = some last ∧ last.phase = .complete operand ∧ last.outer = [] ∧
      last.level.whole operand = d.tree := by
  obtain ⟨last, operand, ha, hp, ho, hc⟩ := derivation_read d .start {} (Or.inl ⟨rfl, rfl⟩) rfl
  exact ⟨last, operand, ha, hp, ho, hc⟩

theorem derivation_inner (d : Derivation .disjunction) :
    ∀ t ∈ d.tokens, t.kind ≠ .endOfInput := by
  obtain ⟨last, operand, ha, _⟩ := derivation_advances d
  exact advance?_inner ha

theorem derivation_tokens_ne_nil (d : Derivation .disjunction) : d.tokens ≠ [] := by
  intro hnil
  obtain ⟨last, operand, ha, hp, _⟩ := derivation_advances d
  rw [hnil, advance?_nil] at ha
  rw [← Option.some.inj ha] at hp
  exact absurd hp (by simp [State.start])

theorem parseTokens_eq_run {first : Token} (h : first.kind ≠ .endOfInput) (rest : List Token) :
    parseTokens (first :: rest) = run .start ((first :: rest) ++
      List.replicate ((first :: rest).length + 2) (rest.getLastD first)) := by
  rw [parseTokens]
  exact if_neg h

def outcomeOf (d : Derivation .disjunction) : Outcome :=
  { tree := d.tree, fields := namedFields d.tokens, error := none, position := d.tokens.length }

theorem parseTokens_derivation (d : Derivation .disjunction) (stop : Token)
    (hs : stop.kind = .endOfInput) (more : List Token) :
    parseTokens (d.tokens ++ stop :: more) = outcomeOf d := by
  obtain ⟨last, operand, ha, hp, ho, hw⟩ := derivation_advances d
  have hf : last.fields = namedFields d.tokens := advance?_fields ha
  have hn : last.position = d.tokens.length := by
    rw [advance?_position ha, State.start, Nat.zero_add]
  have hstep : step last stop = .stop (outcomeOf d) := by
    rw [step_of_end hp ho hs, hw, hf, hn]
    rfl
  cases htok : d.tokens with
  | nil => exact absurd htok (derivation_tokens_ne_nil d)
  | cons first rest =>
      have hk : first.kind ≠ .endOfInput := derivation_inner d first (by rw [htok]; simp)
      rw [List.cons_append, parseTokens_eq_run hk, ← List.cons_append, ← htok, List.append_assoc,
        run_append ha, List.cons_append, run, hstep]

theorem derivation_unique {d d' : Derivation .disjunction} (h : d.tokens = d'.tokens) :
    d = d' := by
  have hd := parseTokens_derivation d (Token.atEnd 0) rfl []
  have hd' := parseTokens_derivation d' (Token.atEnd 0) rfl []
  rw [h, hd'] at hd
  exact Derivation.eq_of_tokens h (congrArg Outcome.tree hd).symm

/-! ## Accepted tokens -/

/-- Whatever list of tokens is accepted, a query stands in front of an end of the input. -/
theorem derivation_of_accepted {tokens : List Token} (h : (parseTokens tokens).error = none) :
    ∃ (d : Derivation .disjunction) (stop : Token) (rest : List Token),
      stop.kind = .endOfInput ∧ tokens = d.tokens ++ stop :: rest := by
  cases tokens with
  | nil => exact absurd h (by simp [parseTokens])
  | cons first rest =>
      by_cases hk : first.kind = .endOfInput
      · exact absurd h (by simp [parseTokens, hk])
      rw [parseTokens_eq_run hk] at h
      obtain ⟨taken, stop, others, last, hsplit, ha, hacc⟩ := run_accepts h
      obtain ⟨d, rfl, -⟩ := derivation_of_accepts (advance?_holds holds_start ha) hacc
      -- The end of the input is not a repetition of the last token: were all tokens taken,
      -- so was that one.
      have hrepeated : (∀ t ∈ first :: rest, t ∈ d.tokens) →
          stop ∉ List.replicate ((first :: rest).length + 2) (rest.getLastD first) := by
        intro hall hmem
        have hin := hall _ List.getLastD_mem_cons
        rw [← List.eq_of_mem_replicate hmem] at hin
        exact derivation_inner d stop hin hacc.kind
      rcases List.append_eq_append_iff.1 hsplit with ⟨a, hd, hr⟩ | ⟨a, hd, hr⟩
      · have hall : ∀ t ∈ first :: rest, t ∈ d.tokens := by
          intro t ht
          rw [hd]
          exact List.mem_append_left a ht
        exact absurd (by rw [hr]; simp) (hrepeated hall)
      · cases a with
        | nil =>
            rw [List.append_nil] at hd
            rw [List.nil_append] at hr
            exact absurd (by rw [← hr]; simp) (hrepeated fun t ht => hd ▸ ht)
        | cons b others' =>
            obtain ⟨rfl, -⟩ := List.cons.inj hr
            exact ⟨d, stop, others', hacc.kind, hd⟩

theorem cut_unique {α : Type} {p : α → Prop} {a b c d : List α} {x y : α}
    (ha : ∀ z ∈ a, ¬p z) (hx : p x) (hc : ∀ z ∈ c, ¬p z) (hy : p y)
    (h : a ++ x :: b = c ++ y :: d) : a = c := by
  induction a generalizing c with
  | nil =>
      cases c with
      | nil => rfl
      | cons z rest =>
          obtain ⟨rfl, -⟩ := List.cons.inj h
          exact absurd hx (hc x (by simp))
  | cons w others ih =>
      cases c with
      | nil =>
          obtain ⟨rfl, -⟩ := List.cons.inj h
          exact absurd hy (ha w (by simp))
      | cons z rest =>
          rw [List.cons_append, List.cons_append] at h
          obtain ⟨rfl, hr⟩ := List.cons.inj h
          rw [ih (fun z hz => ha z (by simp [hz])) (fun z hz => hc z (by simp [hz])) hr]

/-- A query with the end of the input behind it is accepted exactly if it is derivable. -/
theorem parseTokens_error_iff {tokens : List Token} (plain : ∀ t ∈ tokens, t.kind ≠ .endOfInput)
    (stop : Token) (hs : stop.kind = .endOfInput) :
    (parseTokens (tokens ++ [stop])).error = none ↔
      ∃ d : Derivation .disjunction, d.tokens = tokens := by
  constructor
  · intro h
    obtain ⟨d, first, rest, hf, hsplit⟩ := derivation_of_accepted h
    exact ⟨d, (cut_unique plain hs (derivation_inner d) hf hsplit).symm⟩
  · rintro ⟨d, rfl⟩
    rw [parseTokens_derivation d stop hs []]
    rfl

/-! ## Fields and numbers -/

theorem mem_foldl_noted {names seen : List String} {field : String} :
    field ∈ names.foldl noted seen ↔ field ∈ seen ∨ field ∈ names := by
  induction names generalizing seen with
  | nil => simp
  | cons name rest ih =>
      rw [List.foldl_cons, ih, noted]
      split
      · rename_i hc
        have hm : name ∈ seen := by simpa using hc
        constructor
        · rintro (h | h)
          · exact Or.inl h
          · exact Or.inr (List.mem_cons_of_mem name h)
        · rintro (h | h)
          · exact Or.inl h
          · rcases List.mem_cons.1 h with rfl | h
            · exact Or.inl hm
            · exact Or.inr h
      · simp [or_assoc]

theorem mem_namedFields {tokens : List Token} {field : String} :
    field ∈ namedFields tokens ↔ field ∈ fieldNames tokens := by
  have h : namedFields tokens = (fieldNames tokens).foldl noted [] := rfl
  rw [h, mem_foldl_noted]
  simp

/-- A numeral is no value exactly if it is an integer with too many digits. -/
theorem valueOf?_numeral {t : Token} (hk : t.kind = .number)
    (hn : Number.isNumeral t.text = true) :
    valueOf? t = none ↔ '.' ∉ t.text.toList ∧ Number.digitLimit < t.text.length := by
  have hv : valueOf? t = numberOf? t.text := by rw [valueOf?, hk]
  rw [hv, numberOf?]
  have hnum := Number.numeral_of_isNumeral hn
  generalize hcs : t.text.toList = cs at hnum
  cases hnum with
  | integer hne hd =>
      have hpoint : '.' ∉ cs := fun hm => absurd (hd '.' hm) (by decide)
      rw [if_neg (by simpa using hpoint), Number.readInt?_digits (hcs ▸ hne) (hcs ▸ hd)]
      simp only [Option.map_eq_none_iff, ite_eq_right_iff, reduceCtorEq, imp_false, Nat.not_le]
      exact ⟨fun h => ⟨hpoint, h⟩, And.right⟩
  | decimal hne hne' hd hd' =>
      rw [if_pos (by simp), Number.readDecimal?_digits hcs hne hne' hd hd']
      simp

/-! ## The grammar -/

/-- The reader recognises the grammar. Tokens in front of the end of the input are accepted
exactly if they are derivable; then the derivation is unique, the tree is the one it
denotes, and the fields are those of the tree. A number is a value unless it is an integer
with too many digits. -/
theorem recognizes_grammar (tokens : List Token) (stop : Token)
    (plain : ∀ t ∈ tokens, t.kind ≠ .endOfInput) (ends : stop.kind = .endOfInput)
    (numerals : ∀ t ∈ tokens, t.kind = .number → Number.isNumeral t.text = true) :
    ((parseTokens (tokens ++ [stop])).error = none ↔
        ∃ d : Derivation .disjunction, d.tokens = tokens) ∧
      (∀ d : Derivation .disjunction, d.tokens = tokens →
        (∀ d' : Derivation .disjunction, d'.tokens = tokens → d' = d) ∧
          (parseTokens (tokens ++ [stop])).tree = d.tree ∧
          ∀ field, field ∈ (parseTokens (tokens ++ [stop])).fields ↔ field ∈ d.tree.fields) ∧
      ∀ t ∈ tokens, t.kind = .number →
        (valueOf? t = none ↔ '.' ∉ t.text.toList ∧ Number.digitLimit < t.text.length) := by
  refine ⟨parseTokens_error_iff plain stop ends, ?_, ?_⟩
  · rintro d rfl
    rw [parseTokens_derivation d stop ends []]
    refine ⟨fun d' hd' => derivation_unique hd', rfl, fun field => ?_⟩
    rw [← d.fieldNames_tokens]
    exact mem_namedFields
  · intro t ht hk
    exact valueOf?_numeral hk (numerals t ht hk)

/-- The tokens of `NOT Due BETWEEN 1 AND 2.5 AND (tags IN ())`. -/
def rangeTokens : List Token :=
  [⟨.not, "NOT", 0, 3⟩, ⟨.identifier, "Due", 4, 3⟩, ⟨.between, "BETWEEN", 8, 7⟩,
    ⟨.number, "1", 16, 1⟩, ⟨.and, "AND", 18, 3⟩, ⟨.number, "2.5", 22, 3⟩, ⟨.and, "AND", 26, 3⟩,
    ⟨.leftParen, "(", 30, 1⟩, ⟨.identifier, "tags", 31, 4⟩, ⟨.within, "IN", 36, 2⟩,
    ⟨.leftParen, "(", 39, 1⟩, ⟨.rightParen, ")", 40, 1⟩, ⟨.rightParen, ")", 41, 1⟩]

theorem rangeTokens_derivable : ∃ d : Derivation .disjunction, d.tokens = rangeTokens :=
  (recognizes_grammar rangeTokens (.atEnd 42) (by decide) rfl (by decide)).1.1 rfl

end TaskQuery.Query
