import TaskQuery.Query.Parse
import TaskQuery.Query.Vocabulary
/-!
# The grammar of queries

Derivations as trees, with the tokens they span and the query they denote:

    expression := and_expr (OR and_expr)*
    and_expr   := not_expr (AND not_expr)*
    not_expr   := NOT not_expr | primary
    primary    := '(' expression ')' | comparison
    comparison := IDENT (IS [NOT] NULL | [NOT] IN '(' [value (, value)*] ')'
                         | BETWEEN value AND value | binop value)

A chain of operands is built from its first operand on, so that the last connective is
at the root. Nothing here depends on how tokens are read: the only parts shared with the
reader are the two leaves, the signs of binary operators and the texts of numbers.
-/

namespace TaskQuery.Query.Grammar

abbrev Word (kind : TokenKind) := { t : Token // t.kind = kind }

/-- The number of a text: with a point a double, otherwise an integer of at most
`Number.digitLimit` digits. -/
def numberOf? (text : String) : Option Value :=
  if text.toList.contains '.' then (Number.readDecimal? text).map .float
  else (Number.readInt? Number.digitLimit text).map .int

def valueOf? (t : Token) : Option Value :=
  match t.kind with
  | .string => some (.text t.text)
  | .number => numberOf? t.text
  | .null => some .null
  | _ => none

structure ValueWord where
  token : Token
  value : Value
  value_eq : valueOf? token = some value

structure OperatorWord where
  token : Token
  op : Operator
  op_eq : Operator.ofToken? token.kind = some op

/-- `value (, value)*` -/
inductive Items where
  | one (item : ValueWord)
  | more (front : Items) (comma : Word .comma) (last : ValueWord)

/-- `'(' [value (, value)*] ')'` -/
inductive Listing where
  | empty (opening : Word .leftParen) (closing : Word .rightParen)
  | filled (opening : Word .leftParen) (items : Items) (closing : Word .rightParen)

inductive Test where
  | isNull (is : Word .is) (null : Word .null)
  | isNotNull (is : Word .is) (not : Word .not) (null : Word .null)
  | within (word : Word .within) (listing : Listing)
  | notWithin (not : Word .not) (word : Word .within) (listing : Listing)
  | between (word : Word .between) (low : ValueWord) (and : Word .and) (high : ValueWord)
  | binary (sign : OperatorWord) (value : ValueWord)

inductive Symbol where
  | disjunction
  | conjunction
  | negation
  | primary

inductive Derivation : Symbol → Type where
  | disjunct (only : Derivation .conjunction) : Derivation .disjunction
  | or (front : Derivation .disjunction) (word : Word .or)
      (last : Derivation .conjunction) : Derivation .disjunction
  | conjunct (only : Derivation .negation) : Derivation .conjunction
  | and (front : Derivation .conjunction) (word : Word .and)
      (last : Derivation .negation) : Derivation .conjunction
  | not (word : Word .not) (operand : Derivation .negation) : Derivation .negation
  | bare (only : Derivation .primary) : Derivation .negation
  | group (opening : Word .leftParen) (inner : Derivation .disjunction)
      (closing : Word .rightParen) : Derivation .primary
  | comparison (field : Word .identifier) (test : Test) : Derivation .primary

/-! ## Tokens and meaning -/

def Items.tokens : Items → List Token
  | .one item => [item.token]
  | .more front comma last => front.tokens ++ [comma.1, last.token]

def Items.values : Items → List Value
  | .one item => [item.value]
  | .more front _ last => front.values ++ [last.value]

def Listing.tokens : Listing → List Token
  | .empty opening closing => [opening.1, closing.1]
  | .filled opening items closing => opening.1 :: items.tokens ++ [closing.1]

def Listing.values : Listing → List Value
  | .empty _ _ => []
  | .filled _ items _ => items.values

def Test.tokens : Test → List Token
  | .isNull is null => [is.1, null.1]
  | .isNotNull is not null => [is.1, not.1, null.1]
  | .within word listing => word.1 :: listing.tokens
  | .notWithin not word listing => not.1 :: word.1 :: listing.tokens
  | .between word low and high => [word.1, low.token, and.1, high.token]
  | .binary sign value => [sign.token, value.token]

def Test.op : Test → Operator
  | .isNull _ _ => .isNull
  | .isNotNull _ _ _ => .isNotNull
  | .within _ _ => .within
  | .notWithin _ _ _ => .notWithin
  | .between _ _ _ _ => .between
  | .binary sign _ => sign.op

def Test.value : Test → Value
  | .isNull _ _ => .null
  | .isNotNull _ _ _ => .null
  | .within _ listing => .list listing.values
  | .notWithin _ _ listing => .list listing.values
  | .between _ low _ high => .list [low.value, high.value]
  | .binary _ value => value.value

namespace Derivation

def tokens : {s : Symbol} → Derivation s → List Token
  | _, disjunct only => only.tokens
  | _, or front word last => front.tokens ++ word.1 :: last.tokens
  | _, conjunct only => only.tokens
  | _, and front word last => front.tokens ++ word.1 :: last.tokens
  | _, not word operand => word.1 :: operand.tokens
  | _, bare only => only.tokens
  | _, group opening inner closing => opening.1 :: inner.tokens ++ [closing.1]
  | _, comparison field test => field.1 :: test.tokens

/-- The query that a derivation denotes: parentheses are groups, and fields are in lower
case. -/
def tree : {s : Symbol} → Derivation s → Expr
  | _, disjunct only => only.tree
  | _, or front _ last => .or front.tree last.tree
  | _, conjunct only => only.tree
  | _, and front _ last => .and front.tree last.tree
  | _, not _ operand => .not operand.tree
  | _, bare only => only.tree
  | _, group _ inner _ => .group inner.tree
  | _, comparison field test => .comparison (Text.lower field.1.text) test.op test.value

end Derivation

/-! ## Shape of the denoted query -/

theorem tree_primary_ne_logical (d : Derivation .primary) (c : Connective) (l r : Expr) :
    d.tree ≠ .logical c l r := by
  cases d <;> simp [Derivation.tree]

theorem tree_negation_connective {d : Derivation .negation} {c : Connective} {l r : Expr}
    (h : d.tree = .logical c l r) : c = .not := by
  cases d with
  | not word operand =>
      simp only [Derivation.tree, Expr.not, Expr.logical.injEq] at h
      exact h.1.symm
  | bare only => exact absurd h (tree_primary_ne_logical only c l r)

theorem tree_conjunction_connective {d : Derivation .conjunction} {c : Connective} {l r : Expr}
    (h : d.tree = .logical c l r) : c ≠ .or := by
  cases d with
  | conjunct only =>
      have hc := tree_negation_connective (d := only) h
      simp [hc]
  | and front word last =>
      simp only [Derivation.tree, Expr.and, Expr.logical.injEq] at h
      simp [← h.1]

theorem tree_ne_absent {s : Symbol} (d : Derivation s) : d.tree ≠ .absent := by
  induction d with
  | disjunct only ih => exact ih
  | conjunct only ih => exact ih
  | bare only ih => exact ih
  | or front word last => simp [Derivation.tree, Expr.or]
  | and front word last => simp [Derivation.tree, Expr.and]
  | not word operand => simp [Derivation.tree, Expr.not]
  | group opening inner closing => simp [Derivation.tree]
  | comparison field test => simp [Derivation.tree]

/-! ## Unique reading

A query determines how many tokens any derivation of it spans. So two derivations of one
query over the same tokens cut them at the same places, and are equal. -/

def comparisonSize : Operator → Value → Nat
  | .isNull, _ => 3
  | .isNotNull, _ => 4
  | .within, .list items => 2 * items.length - 1 + 4
  | .notWithin, .list items => 2 * items.length - 1 + 5
  | .between, _ => 5
  | _, _ => 3

def size : Expr → Nat
  | .absent => 0
  | .comparison _ op value => comparisonSize op value
  | .logical _ left right => size left + 1 + size right
  | .group inner => size inner + 2

theorem Items.length_tokens (items : Items) :
    items.tokens.length + 1 = 2 * items.values.length := by
  induction items with
  | one item => rfl
  | more front comma last ih =>
      simp only [Items.tokens, Items.values, List.length_append, List.length_cons,
        List.length_nil]
      omega

theorem Listing.length_tokens (listing : Listing) :
    listing.tokens.length = 2 * listing.values.length - 1 + 2 := by
  cases listing with
  | empty opening closing => rfl
  | filled opening items closing =>
      have h := items.length_tokens
      simp only [Listing.tokens, Listing.values, List.length_append, List.length_cons,
        List.length_nil]
      omega

theorem comparisonSize_of_sign {kind : TokenKind} {op : Operator}
    (h : Operator.ofToken? kind = some op) (value : Value) : comparisonSize op value = 3 := by
  cases kind <;> simp [Operator.ofToken?] at h <;> subst h <;> rfl

theorem Test.length_tokens (test : Test) :
    test.tokens.length + 1 = comparisonSize test.op test.value := by
  cases test with
  | within word listing =>
      simp only [Test.tokens, Test.op, Test.value, comparisonSize, List.length_cons,
        listing.length_tokens]
  | notWithin not word listing =>
      simp only [Test.tokens, Test.op, Test.value, comparisonSize, List.length_cons,
        listing.length_tokens]
  | binary sign value => exact (comparisonSize_of_sign sign.op_eq value.value).symm
  | _ => rfl

theorem Derivation.length_tokens {s : Symbol} (d : Derivation s) :
    d.tokens.length = size d.tree := by
  induction d with
  | disjunct only ih => exact ih
  | conjunct only ih => exact ih
  | bare only ih => exact ih
  | or front word last ihf ihl =>
      simp only [Derivation.tokens, Derivation.tree, Expr.or, size, List.length_append,
        List.length_cons, ihf, ihl]
      omega
  | and front word last ihf ihl =>
      simp only [Derivation.tokens, Derivation.tree, Expr.and, size, List.length_append,
        List.length_cons, ihf, ihl]
      omega
  | not word operand ih =>
      simp only [Derivation.tokens, Derivation.tree, Expr.not, size, List.length_cons, ih]
      omega
  | group opening inner closing ih =>
      simp only [Derivation.tokens, Derivation.tree, size, List.length_append,
        List.length_cons, List.length_nil, ih]
  | comparison field test => exact test.length_tokens

theorem ValueWord.eq_of_token {v w : ValueWord} (h : v.token = w.token) : v = w := by
  obtain ⟨t, a, ha⟩ := v
  obtain ⟨u, b, hb⟩ := w
  obtain rfl : t = u := h
  obtain rfl : a = b := Option.some.inj (ha.symm.trans hb)
  rfl

theorem OperatorWord.eq_of_token {v w : OperatorWord} (h : v.token = w.token) : v = w := by
  obtain ⟨t, a, ha⟩ := v
  obtain ⟨u, b, hb⟩ := w
  obtain rfl : t = u := h
  obtain rfl : a = b := Option.some.inj (ha.symm.trans hb)
  rfl

theorem Items.tokens_ne_nil (items : Items) : items.tokens ≠ [] := by
  cases items <;> simp [Items.tokens]

theorem Items.eq_of_tokens {a b : Items} (h : a.tokens = b.tokens) : a = b := by
  induction a generalizing b with
  | one item =>
      cases b with
      | one other =>
          have ht : item.token = other.token := by simpa [Items.tokens] using h
          rw [ValueWord.eq_of_token ht]
      | more front comma last =>
          have hl := congrArg List.length h
          have hf := List.length_pos_iff.2 front.tokens_ne_nil
          simp only [Items.tokens, List.length_append, List.length_cons, List.length_nil] at hl
          omega
  | more front comma last ih =>
      cases b with
      | one item =>
          have hl := congrArg List.length h
          have hf := List.length_pos_iff.2 front.tokens_ne_nil
          simp only [Items.tokens, List.length_append, List.length_cons, List.length_nil] at hl
          omega
      | more front' comma' last' =>
          obtain ⟨hf, hr⟩ := List.append_inj' h rfl
          simp only [List.cons.injEq, and_true] at hr
          rw [ih hf, Subtype.ext hr.1, ValueWord.eq_of_token hr.2]

theorem Listing.eq_of_tokens {a b : Listing} (h : a.tokens = b.tokens) : a = b := by
  have hl := congrArg List.length h
  cases a with
  | empty opening closing =>
      cases b with
      | empty opening' closing' =>
          simp only [Listing.tokens, List.cons.injEq, and_true] at h
          rw [Subtype.ext h.1, Subtype.ext h.2]
      | filled opening' items closing' =>
          have hi := List.length_pos_iff.2 items.tokens_ne_nil
          simp only [Listing.tokens, List.length_append, List.length_cons, List.length_nil] at hl
          omega
  | filled opening items closing =>
      cases b with
      | empty opening' closing' =>
          have hi := List.length_pos_iff.2 items.tokens_ne_nil
          simp only [Listing.tokens, List.length_append, List.length_cons, List.length_nil] at hl
          omega
      | filled opening' items' closing' =>
          obtain ⟨hf, hr⟩ := List.append_inj' h rfl
          simp only [List.cons.injEq, and_true] at hf hr
          rw [Subtype.ext hf.1, Items.eq_of_tokens hf.2, Subtype.ext hr]

/-- The kinds of the first tokens tell the tests apart. -/
theorem Test.eq_of_tokens {a b : Test} (h : a.tokens = b.tokens) : a = b := by
  have sign_kind : ∀ (sign : OperatorWord) {kind : TokenKind} (w : Word kind),
      Operator.ofToken? kind = none → sign.token ≠ w.1 := by
    intro sign kind w hk heq
    have hs := sign.op_eq
    rw [heq, w.2, hk] at hs
    exact absurd hs (by simp)
  have word_kind : ∀ {k l : TokenKind} (v : Word k) (w : Word l), k ≠ l → v.1 ≠ w.1 := by
    intro k l v w hkl heq
    exact hkl (v.2.symm.trans ((congrArg Token.kind heq).trans w.2))
  cases a <;> cases b <;> simp only [Test.tokens, List.cons.injEq, and_true] at h
  case isNull.isNull => rw [Subtype.ext h.1, Subtype.ext h.2]
  case isNotNull.isNotNull =>
      rw [Subtype.ext h.1, Subtype.ext h.2.1, Subtype.ext h.2.2]
  case within.within => rw [Subtype.ext h.1, Listing.eq_of_tokens h.2]
  case notWithin.notWithin =>
      rw [Subtype.ext h.1, Subtype.ext h.2.1, Listing.eq_of_tokens h.2.2]
  case between.between =>
      rw [Subtype.ext h.1, ValueWord.eq_of_token h.2.1, Subtype.ext h.2.2.1,
        ValueWord.eq_of_token h.2.2.2]
  case binary.binary => rw [OperatorWord.eq_of_token h.1, ValueWord.eq_of_token h.2]
  all_goals first
    | exact absurd h.1 (word_kind _ _ (by decide))
    | exact absurd h.2.1 (word_kind _ _ (by decide))
    | exact absurd h.1 (sign_kind _ _ rfl)
    | exact absurd h.1.symm (sign_kind _ _ rfl)

/-- Two derivations of one query over the same tokens are equal. -/
theorem Derivation.eq_of_tokens {s : Symbol} {d d' : Derivation s} (h : d.tokens = d'.tokens)
    (ht : d.tree = d'.tree) : d = d' := by
  induction d with
  | disjunct only ih =>
      cases d' with
      | disjunct only' => rw [ih h ht]
      | or front word last => exact absurd rfl (tree_conjunction_connective (d := only) ht)
  | or front word last ihf ihl =>
      cases d' with
      | disjunct only => exact absurd rfl (tree_conjunction_connective (d := only) ht.symm)
      | or front' word' last' =>
          simp only [tree, Expr.or, Expr.logical.injEq, true_and] at ht
          obtain ⟨hf, hr⟩ := List.append_inj h (by rw [length_tokens, length_tokens, ht.1])
          simp only [List.cons.injEq] at hr
          rw [ihf hf ht.1, Subtype.ext hr.1, ihl hr.2 ht.2]
  | conjunct only ih =>
      cases d' with
      | conjunct only' => rw [ih h ht]
      | and front word last =>
          exact absurd (tree_negation_connective (d := only) ht) (by decide)
  | and front word last ihf ihl =>
      cases d' with
      | conjunct only =>
          exact absurd (tree_negation_connective (d := only) ht.symm) (by decide)
      | and front' word' last' =>
          simp only [tree, Expr.and, Expr.logical.injEq, true_and] at ht
          obtain ⟨hf, hr⟩ := List.append_inj h (by rw [length_tokens, length_tokens, ht.1])
          simp only [List.cons.injEq] at hr
          rw [ihf hf ht.1, Subtype.ext hr.1, ihl hr.2 ht.2]
  | not word operand ih =>
      cases d' with
      | not word' operand' =>
          simp only [tree, Expr.not, Expr.logical.injEq, true_and] at ht
          simp only [tokens, List.cons.injEq] at h
          rw [Subtype.ext h.1, ih h.2 ht]
      | bare only => exact absurd ht.symm (tree_primary_ne_logical only _ _ _)
  | bare only ih =>
      cases d' with
      | not word operand => exact absurd ht (tree_primary_ne_logical only _ _ _)
      | bare only' => rw [ih h ht]
  | group opening inner closing ih =>
      cases d' with
      | group opening' inner' closing' =>
          simp only [tree, Expr.group.injEq] at ht
          obtain ⟨hf, hr⟩ := List.append_inj' h rfl
          simp only [List.cons.injEq, and_true] at hf hr
          rw [Subtype.ext hf.1, ih hf.2 ht, Subtype.ext hr]
      | comparison field test => simp [tree] at ht
  | comparison field test =>
      cases d' with
      | group opening inner closing => simp [tree] at ht
      | comparison field' test' =>
          simp only [tokens, List.cons.injEq] at h
          rw [Subtype.ext h.1, Test.eq_of_tokens h.2]

/-! ## Fields -/

def fieldNames (tokens : List Token) : List String :=
  (tokens.filter fun t => t.kind = .identifier).map fun t => Text.lower t.text

theorem fieldNames_append (a b : List Token) :
    fieldNames (a ++ b) = fieldNames a ++ fieldNames b := by
  simp [fieldNames]

theorem fieldNames_identifier {t : Token} (h : t.kind = .identifier) (rest : List Token) :
    fieldNames (t :: rest) = Text.lower t.text :: fieldNames rest := by
  simp [fieldNames, h]

theorem fieldNames_other {t : Token} (h : t.kind ≠ .identifier) (rest : List Token) :
    fieldNames (t :: rest) = fieldNames rest := by
  simp [fieldNames, h]

theorem fieldNames_eq_nil {tokens : List Token} (h : ∀ t ∈ tokens, t.kind ≠ .identifier) :
    fieldNames tokens = [] := by
  simpa [fieldNames] using h

theorem mem_fieldNames {tokens : List Token} {field : String} :
    field ∈ fieldNames tokens ↔
      ∃ t ∈ tokens, t.kind = .identifier ∧ Text.lower t.text = field := by
  simp [fieldNames, and_assoc]

theorem forall_mem_fieldNames {tokens : List Token} {p : String → Prop} :
    (∀ field ∈ fieldNames tokens, p field) ↔
      ∀ t ∈ tokens, t.kind = .identifier → p (Text.lower t.text) := by
  constructor
  · intro h t ht hk
    exact h _ (mem_fieldNames.2 ⟨t, ht, hk, rfl⟩)
  · intro h field hf
    obtain ⟨t, ht, hk, rfl⟩ := mem_fieldNames.1 hf
    exact h t ht hk

def isListKind : TokenKind → Bool
  | .string | .number | .null | .comma | .leftParen | .rightParen => true
  | _ => false

def isTestKind : TokenKind → Bool
  | .identifier | .endOfInput | .unknown | .or => false
  | _ => true

theorem isTestKind_of_isListKind {kind : TokenKind} (h : isListKind kind = true) :
    isTestKind kind = true := by
  cases kind <;> first | rfl | exact absurd h (by decide)

theorem Word.isListKind {kind : TokenKind} (w : Word kind) (h : isListKind kind = true) :
    isListKind w.1.kind = true := by
  rw [w.2, h]

theorem Word.isTestKind {kind : TokenKind} (w : Word kind) (h : isTestKind kind = true) :
    isTestKind w.1.kind = true := by
  rw [w.2, h]

theorem kind_of_valueOf? {t : Token} {v : Value} (h : valueOf? t = some v) :
    t.kind = .string ∨ t.kind = .number ∨ t.kind = .null := by
  unfold valueOf? at h
  split at h
  · rename_i hk; exact Or.inl hk
  · rename_i hk; exact Or.inr (Or.inl hk)
  · rename_i hk; exact Or.inr (Or.inr hk)
  · exact absurd h (by simp)

theorem ValueWord.isListKind (v : ValueWord) : isListKind v.token.kind = true := by
  rcases kind_of_valueOf? v.value_eq with hk | hk | hk
  · rw [hk]; rfl
  · rw [hk]; rfl
  · rw [hk]; rfl

theorem ValueWord.isTestKind (v : ValueWord) : isTestKind v.token.kind = true :=
  isTestKind_of_isListKind v.isListKind

theorem OperatorWord.isTestKind (w : OperatorWord) : isTestKind w.token.kind = true := by
  have h := w.op_eq
  unfold Operator.ofToken? at h
  split at h <;> first | (rename_i hk; rw [hk]; rfl) | exact absurd h (by simp)

theorem Items.isListKind_of_mem {items : Items} :
    ∀ t ∈ items.tokens, isListKind t.kind = true := by
  induction items with
  | one item => simp [Items.tokens, item.isListKind]
  | more front comma last ih =>
      intro t ht
      rcases List.mem_append.1 ht with h | h
      · exact ih t h
      · rcases List.mem_cons.1 h with rfl | h
        · exact Word.isListKind comma rfl
        · rw [List.mem_singleton.1 h]
          exact last.isListKind

theorem Listing.isListKind_of_mem {listing : Listing} :
    ∀ t ∈ listing.tokens, isListKind t.kind = true := by
  cases listing with
  | empty opening closing =>
      simp [Listing.tokens, Word.isListKind opening rfl, Word.isListKind closing rfl]
  | filled opening items closing =>
      intro t ht
      rcases List.mem_append.1 ht with h | h
      · rcases List.mem_cons.1 h with rfl | h
        · exact Word.isListKind opening rfl
        · exact Items.isListKind_of_mem t h
      · rw [List.mem_singleton.1 h]
        exact Word.isListKind closing rfl

theorem Test.isTestKind_of_mem {test : Test} : ∀ t ∈ test.tokens, isTestKind t.kind = true := by
  have hlisting : ∀ {listing : Listing}, ∀ t ∈ listing.tokens, Grammar.isTestKind t.kind = true :=
    fun t ht => isTestKind_of_isListKind (Listing.isListKind_of_mem t ht)
  cases test with
  | isNull is null => simp [Test.tokens, Word.isTestKind is rfl, Word.isTestKind null rfl]
  | isNotNull is not null =>
      simp [Test.tokens, Word.isTestKind is rfl, Word.isTestKind not rfl,
        Word.isTestKind null rfl]
  | within word listing => simpa [Test.tokens, Word.isTestKind word rfl] using hlisting
  | notWithin not word listing =>
      simpa [Test.tokens, Word.isTestKind not rfl, Word.isTestKind word rfl] using hlisting
  | between word low and high =>
      simp [Test.tokens, Word.isTestKind word rfl, Word.isTestKind and rfl, low.isTestKind,
        high.isTestKind]
  | binary sign value => simp [Test.tokens, sign.isTestKind, value.isTestKind]

theorem fieldNames_test (test : Test) : fieldNames test.tokens = [] := by
  apply fieldNames_eq_nil
  intro t ht hk
  have h := Test.isTestKind_of_mem t ht
  rw [hk] at h
  exact absurd h (by decide)

theorem Derivation.fieldNames_tokens {s : Symbol} (d : Derivation s) :
    fieldNames d.tokens = d.tree.fields := by
  induction d with
  | disjunct only ih => exact ih
  | conjunct only ih => exact ih
  | bare only ih => exact ih
  | or front word last ihf ihl =>
      rw [tokens, fieldNames_append, fieldNames_other (by rw [word.2]; decide), ihf, ihl]
      rfl
  | and front word last ihf ihl =>
      rw [tokens, fieldNames_append, fieldNames_other (by rw [word.2]; decide), ihf, ihl]
      rfl
  | not word operand ih =>
      rw [tokens, fieldNames_other (by rw [word.2]; decide), ih]
      rfl
  | group opening inner closing ih =>
      rw [tokens, fieldNames_append, fieldNames_other (by rw [opening.2]; decide),
        fieldNames_other (by rw [closing.2]; decide), ih]
      simp [fieldNames, tree, Expr.fields]
  | comparison field test =>
      rw [tokens, fieldNames_identifier field.2, fieldNames_test]
      rfl

end TaskQuery.Query.Grammar
