import TaskQuery.Proofs.Number.Expansion
import TaskQuery.Proofs.Query.Recognition
import TaskQuery.Proofs.Query.Tiling
/-!
# Canonical trees

The trees that a query text can be read as. Chains lean left and hold nothing that binds
weaker without a group around it, fields are names in lower case, and each operator has the
values that can be written behind it.
-/

namespace TaskQuery

/-- The values that a query text can write as one literal. -/
def Value.Writable : Value → Prop
  | .null => True
  | .text _ => True
  | .int n => 0 ≤ n ∧ (Text.digits n.toNat).length ≤ Number.digitLimit
  | .float d => d.Unsigned
  | _ => False

namespace Query

def startsName (c : Char) : Bool :=
  c.isLower || c == '_'

def continuesName (c : Char) : Bool :=
  startsName c || c.isDigit

/-- A name of a field in lower case. It is no keyword in any case. -/
structure IsFieldName (field : String) : Prop where
  shape : ∃ c rest, field.toList = c :: rest ∧ startsName c = true ∧
    ∀ d ∈ rest, continuesName d = true
  not_keyword : String.ofList (field.toList.map Char.toUpper) ∉ TokenKind.keywords.map Prod.fst

def Operator.Takes (op : Operator) (value : Value) : Prop :=
  match op with
  | .isNull | .isNotNull => value = .null
  | .within | .notWithin => ∃ items, value = .list items ∧ ∀ item ∈ items, item.Writable
  | .between => ∃ low high, value = .list [low, high] ∧ low.Writable ∧ high.Writable
  | _ => value.Writable

def Expr.connective? : Expr → Option Connective
  | .logical connective _ _ => some connective
  | _ => none

/-- The trees of query texts. -/
def Expr.Canonical : Expr → Prop
  | .absent => False
  | .comparison field op value => IsFieldName field ∧ op.Takes value
  | .logical .or left right =>
      left.Canonical ∧ right.Canonical ∧ right.connective? ≠ some .or
  | .logical .and left right =>
      left.Canonical ∧ right.Canonical ∧ left.connective? ≠ some .or ∧
        right.connective? ≠ some .or ∧ right.connective? ≠ some .and
  | .logical .not left operand =>
      left = .absent ∧ operand.Canonical ∧ operand.connective? ≠ some .or ∧
        operand.connective? ≠ some .and
  | .group inner => inner.Canonical

/-! ## Names -/

section Names

variable {c : Char} {word : List Char}

theorem toNat_lt_of_continuesWord (h : Lexeme.continuesWord c = true) : c.toNat < 0x80 := by
  rcases Lexeme.continuesWord_iff.1 h with h | h
  · rcases Lexeme.startsWord_iff.1 h with ⟨_, _⟩ | ⟨_, _⟩ | rfl
    · omega
    · omega
    · decide
  · have hd := Number.toNat_of_isDigit h
    omega

/-- A fact about all ASCII characters, from its list of cases. -/
theorem ascii_induction {p : Char → Prop} (h : ∀ n < 0x80, p (Char.ofNat n))
    (hc : c.toNat < 0x80) : p c := by
  rw [← Char.ofNat_toNat c]
  exact h c.toNat hc

theorem startsName_toLower (h : Lexeme.startsWord c = true) : startsName c.toLower = true := by
  have hc := toNat_lt_of_continuesWord (Lexeme.continuesWord_iff.2 (Or.inl h))
  have all : ∀ n < 0x80, Lexeme.startsWord (Char.ofNat n) = true →
      startsName (Char.ofNat n).toLower = true := by decide
  exact ascii_induction (p := fun c => Lexeme.startsWord c = true → startsName c.toLower = true)
    all hc h

theorem continuesName_toLower (h : Lexeme.continuesWord c = true) :
    continuesName c.toLower = true := by
  have hc := toNat_lt_of_continuesWord h
  have all : ∀ n < 0x80, Lexeme.continuesWord (Char.ofNat n) = true →
      continuesName (Char.ofNat n).toLower = true := by decide
  exact ascii_induction
    (p := fun c => Lexeme.continuesWord c = true → continuesName c.toLower = true) all hc h

theorem toUpper_toLower (h : c.toNat < 0x80) : c.toLower.toUpper = c.toUpper := by
  have all : ∀ n < 0x80, (Char.ofNat n).toLower.toUpper = (Char.ofNat n).toUpper := by decide
  exact ascii_induction (p := fun c => c.toLower.toUpper = c.toUpper) all h

theorem startsWord_of_startsName (h : startsName c = true) : Lexeme.startsWord c = true := by
  rcases Bool.or_eq_true_iff.1 h with h | h
  · unfold Lexeme.startsWord Char.isAlpha
    simp [h]
  · simp [Lexeme.startsWord, h]

theorem continuesWord_of_continuesName (h : continuesName c = true) :
    Lexeme.continuesWord c = true := by
  rcases Bool.or_eq_true_iff.1 h with h | h
  · exact Lexeme.continuesWord_iff.2 (Or.inl (startsWord_of_startsName h))
  · exact Lexeme.continuesWord_iff.2 (Or.inr h)

theorem toLower_of_continuesName (h : continuesName c = true) : c.toLower = c := by
  have hc := toNat_lt_of_continuesWord (continuesWord_of_continuesName h)
  have all : ∀ n < 0x80, continuesName (Char.ofNat n) = true →
      (Char.ofNat n).toLower = Char.ofNat n := by decide
  exact ascii_induction (p := fun c => continuesName c = true → c.toLower = c) all hc h

theorem lowerAfter_of_ascii (h : ∀ d ∈ word, d.toNat < 0x80) (before : List Char) :
    Text.lowerAfter before word = word.map Char.toLower := by
  induction word generalizing before with
  | nil => rfl
  | cons d rest ih =>
      have hd := h d List.mem_cons_self
      have hsigma : (d == 'Σ') = false := by
        rw [beq_eq_false_iff_ne]
        rintro rfl
        exact absurd hd (by decide)
      have hdotted : (d == 'İ') = false := by
        rw [beq_eq_false_iff_ne]
        rintro rfl
        exact absurd hd (by decide)
      rw [Text.lowerAfter, ih fun e he => h e (List.mem_cons_of_mem d he), Text.lowerExpansion,
        hsigma, hdotted, if_neg (by simp), if_neg (by simp), Text.lowerChar, if_pos hd]
      rfl

theorem toList_lower (h : ∀ d ∈ word, d.toNat < 0x80) :
    (Text.lower (String.ofList word)).toList = word.map Char.toLower := by
  rw [Text.lower, String.toList_ofList, String.toList_ofList, lowerAfter_of_ascii h]

theorem wordKind_eq_identifier_iff :
    Lexeme.wordKind word = .identifier ↔
      String.ofList (word.map Char.toUpper) ∉ TokenKind.keywords.map Prod.fst := by
  unfold Lexeme.wordKind
  generalize String.ofList (word.map Char.toUpper) = upper
  cases h : TokenKind.keywords.lookup upper with
  | none =>
      refine iff_of_true rfl fun hmem => ?_
      obtain ⟨entry, hentry, rfl⟩ := List.mem_map.1 hmem
      exact absurd (List.lookup_eq_none_iff.1 h entry hentry) (by simp)
  | some kind =>
      obtain ⟨front, back, hsplit, -⟩ := List.lookup_eq_some_iff.1 h
      have hmem : (upper, kind) ∈ TokenKind.keywords := by simp [hsplit]
      have hkinds : ∀ entry ∈ TokenKind.keywords, entry.2 ≠ .identifier := by decide
      refine iff_of_false (hkinds _ hmem) fun hnot => hnot ?_
      exact List.mem_map.2 ⟨_, hmem, rfl⟩

theorem isFieldName_lower (hstart : Lexeme.startsWord c = true)
    (hrest : ∀ d ∈ word, Lexeme.continuesWord d = true)
    (hkind : Lexeme.wordKind (c :: word) = .identifier) :
    IsFieldName (Text.lower (String.ofList (c :: word))) := by
  have hascii : ∀ d ∈ c :: word, d.toNat < 0x80 := by
    intro d hd
    rcases List.mem_cons.1 hd with rfl | hd
    · exact toNat_lt_of_continuesWord (Lexeme.continuesWord_iff.2 (Or.inl hstart))
    · exact toNat_lt_of_continuesWord (hrest d hd)
  refine ⟨⟨c.toLower, word.map Char.toLower, toList_lower hascii, startsName_toLower hstart, ?_⟩,
    ?_⟩
  · intro d hd
    obtain ⟨e, he, rfl⟩ := List.mem_map.1 hd
    exact continuesName_toLower (hrest e he)
  · have hupper : ((c :: word).map Char.toLower).map Char.toUpper =
        (c :: word).map Char.toUpper := by
      rw [List.map_map]
      exact List.map_congr_left fun d hd => toUpper_toLower (hascii d hd)
    rw [toList_lower hascii, hupper]
    exact wordKind_eq_identifier_iff.1 hkind

theorem IsFieldName.written {field : String} (h : IsFieldName field) :
    Lexeme.Written .identifier field.toList field.toList ∧ Text.lower field = field := by
  obtain ⟨⟨c, rest, hlist, hstart, hrest⟩, hkeyword⟩ := h
  have hword := Lexeme.Written.word (startsWord_of_startsName hstart)
    fun d hd => continuesWord_of_continuesName (hrest d hd)
  rw [← hlist, wordKind_eq_identifier_iff.2 hkeyword] at hword
  have hname : ∀ d ∈ field.toList, continuesName d = true := by
    intro d hd
    rw [hlist] at hd
    rcases List.mem_cons.1 hd with rfl | hd
    · simp [continuesName, hstart]
    · exact hrest d hd
  have hascii : ∀ d ∈ field.toList, d.toNat < 0x80 := fun d hd =>
    toNat_lt_of_continuesWord (continuesWord_of_continuesName (hname d hd))
  have hlower := toList_lower hascii
  rw [List.map_congr_left fun d hd => toLower_of_continuesName (hname d hd), List.map_id',
    String.ofList_toList] at hlower
  exact ⟨hword, String.toList_inj.1 hlower⟩

end Names

/-! ## Values -/

variable {t : Token} {v : Value} {kind : TokenKind} {content slice : List Char}

theorem Lexeme.Written.of_number (h : Lexeme.Written kind content slice) (hk : kind = .number) :
    Number.Numeral content := by
  cases h with
  | string => exact absurd hk (by decide)
  | number hnum => exact hnum
  | sign hmem => exact absurd (by simp [hk]) (Lexeme.kind_not_mem_of_sign hmem)
  | word => exact absurd hk (Lexeme.wordKind_ne (by decide) (by decide) _)

theorem Lexeme.Written.of_identifier (h : Lexeme.Written kind content slice)
    (hk : kind = .identifier) : ∃ c rest, content = c :: rest ∧ Lexeme.startsWord c = true ∧
      (∀ d ∈ rest, Lexeme.continuesWord d = true) ∧ Lexeme.wordKind content = .identifier := by
  cases h with
  | string => exact absurd hk (by decide)
  | number => exact absurd hk (by decide)
  | sign hmem => exact absurd (by simp [hk]) (Lexeme.kind_not_mem_of_sign hmem)
  | word hstart hrest => exact ⟨_, _, rfl, hstart, hrest, hk⟩

theorem writable_of_numberOf? {text : String} (hnum : Number.Numeral text.toList)
    (h : Grammar.numberOf? text = some v) : v.Writable := by
  unfold Grammar.numberOf? at h
  generalize hcs : text.toList = cs at hnum h
  cases hnum with
  | integer hne hd =>
      have hpoint : ¬ cs.contains '.' = true := by
        intro hm
        exact absurd (hd '.' (by simpa using hm)) (by decide)
      rw [if_neg hpoint, Number.readInt?_digits (hcs ▸ hne) (hcs ▸ hd)] at h
      split at h
      · rename_i hlimit
        obtain rfl := Option.some.inj h
        refine ⟨Int.natCast_nonneg _, ?_⟩
        rw [Int.toNat_natCast, hcs]
        have hdigits := Number.length_digits_ofDigits hne hd
        rw [← hcs, String.length_toList] at hdigits
        rw [← hcs]
        exact hdigits.trans hlimit
      · exact absurd h (by simp)
  | decimal hne hne' hd hd' =>
      rw [if_pos (by simp), Number.readDecimal?_digits hcs hne hne' hd hd'] at h
      obtain rfl := Option.some.inj h
      exact Double.unsigned_ofDecimal _ _

theorem writable_of_valueOf? (h : Lexeme.Written t.kind t.text.toList slice)
    (hv : Grammar.valueOf? t = some v) : v.Writable := by
  unfold Grammar.valueOf? at hv
  split at hv
  · obtain rfl := Option.some.inj hv
    trivial
  · rename_i hk
    exact writable_of_numberOf? (h.of_number hk) hv
  · obtain rfl := Option.some.inj hv
    trivial
  · exact absurd hv (by simp)

/-! ## Derivations of lexemes -/

open Grammar

theorem writable_of_items {items : Items}
    (h : ∀ t ∈ items.tokens, ∃ slice, Lexeme.Written t.kind t.text.toList slice) :
    ∀ v ∈ items.values, v.Writable := by
  induction items with
  | one item =>
      intro v hv
      obtain rfl := List.mem_singleton.1 hv
      obtain ⟨slice, hw⟩ := h item.token (by simp [Items.tokens])
      exact writable_of_valueOf? hw item.value_eq
  | more front comma last ih =>
      intro v hv
      rcases List.mem_append.1 hv with hv | hv
      · exact ih (fun t ht => h t (by simp [Items.tokens, ht])) v hv
      · obtain rfl := List.mem_singleton.1 hv
        obtain ⟨slice, hw⟩ := h last.token (by simp [Items.tokens])
        exact writable_of_valueOf? hw last.value_eq

theorem writable_of_listing {listing : Listing}
    (h : ∀ t ∈ listing.tokens, ∃ slice, Lexeme.Written t.kind t.text.toList slice) :
    ∀ v ∈ listing.values, v.Writable := by
  cases listing with
  | empty => simp [Listing.values]
  | filled opening items closing =>
      exact writable_of_items fun t ht => h t (by simp [Listing.tokens, ht])

theorem takes_iff_of_sign {op : Operator} (h : Operator.ofToken? kind = some op) :
    op.Takes v ↔ v.Writable := by
  cases kind <;> simp [Operator.ofToken?] at h <;> subst h <;> rfl

theorem takes_of_test {test : Test}
    (h : ∀ t ∈ test.tokens, ∃ slice, Lexeme.Written t.kind t.text.toList slice) :
    test.op.Takes test.value := by
  cases test with
  | isNull => rfl
  | isNotNull => rfl
  | within word listing =>
      exact ⟨_, rfl, writable_of_listing fun t ht => h t (by simp [Test.tokens, ht])⟩
  | notWithin not word listing =>
      exact ⟨_, rfl, writable_of_listing fun t ht => h t (by simp [Test.tokens, ht])⟩
  | between word low and high =>
      obtain ⟨_, hlow⟩ := h low.token (by simp [Test.tokens])
      obtain ⟨_, hhigh⟩ := h high.token (by simp [Test.tokens])
      exact ⟨_, _, rfl, writable_of_valueOf? hlow low.value_eq,
        writable_of_valueOf? hhigh high.value_eq⟩
  | binary sign value =>
      obtain ⟨_, hvalue⟩ := h value.token (by simp [Test.tokens])
      exact (takes_iff_of_sign sign.op_eq).2 (writable_of_valueOf? hvalue value.value_eq)

theorem connective_of_tree {e : Expr} {connective : Connective}
    (h : e.connective? = some connective) : ∃ left right, e = .logical connective left right := by
  cases e with
  | logical c left right => exact ⟨left, right, by rw [Option.some.inj h]⟩
  | _ => exact absurd h (by simp [Expr.connective?])

theorem connective_of_conjunction (d : Derivation .conjunction) :
    d.tree.connective? ≠ some .or := by
  intro h
  obtain ⟨left, right, htree⟩ := connective_of_tree h
  exact tree_conjunction_connective htree rfl

theorem connective_of_negation (d : Derivation .negation) :
    d.tree.connective? ≠ some .or ∧ d.tree.connective? ≠ some .and := by
  constructor
  all_goals
    intro h
    obtain ⟨left, right, htree⟩ := connective_of_tree h
    exact absurd (tree_negation_connective htree) (by decide)

theorem canonical_of_derivation {s : Symbol} (d : Derivation s)
    (h : ∀ t ∈ d.tokens, ∃ slice, Lexeme.Written t.kind t.text.toList slice) :
    d.tree.Canonical := by
  induction d with
  | disjunct only ih => exact ih h
  | conjunct only ih => exact ih h
  | bare only ih => exact ih h
  | or front word last ihf ihl =>
      refine ⟨ihf fun t ht => h t ?_, ihl fun t ht => h t ?_, connective_of_conjunction last⟩
      · simp [Derivation.tokens, ht]
      · simp [Derivation.tokens, ht]
  | and front word last ihf ihl =>
      refine ⟨ihf fun t ht => h t ?_, ihl fun t ht => h t ?_, connective_of_conjunction front,
        connective_of_negation last⟩
      · simp [Derivation.tokens, ht]
      · simp [Derivation.tokens, ht]
  | not word operand ih =>
      refine ⟨rfl, ih fun t ht => h t ?_, connective_of_negation operand⟩
      simp [Derivation.tokens, ht]
  | group opening inner closing ih =>
      apply ih
      intro t ht
      exact h t (by simp [Derivation.tokens, ht])
  | comparison field test =>
      refine ⟨?_, takes_of_test fun t ht => h t ?_⟩
      · obtain ⟨_, hfield⟩ := h field.1 (by simp [Derivation.tokens])
        obtain ⟨c, rest, hlist, hstart, hrest, hkind⟩ := hfield.of_identifier field.2
        rw [hlist] at hkind
        have hname := isFieldName_lower hstart hrest hkind
        rwa [← hlist, String.ofList_toList] at hname
      · simp [Derivation.tokens, ht]

/-- Every query text without errors is read as a canonical tree. -/
theorem canonical_of_accepted {text : String} {tokens : List Token}
    (h : tokenize text = .ok tokens) (accepted : (parseTokens tokens).error = none) :
    (parseTokens tokens).tree.Canonical := by
  obtain ⟨inner, rfl, htiling⟩ := tiling_of_tokenize h
  obtain ⟨d, rfl⟩ := (parseTokens_error_iff htiling.inner _ rfl).1 accepted
  rw [parseTokens_derivation d _ rfl []]
  exact canonical_of_derivation d fun t ht => ⟨_, (htiling.fits t ht).written⟩

end Query

end TaskQuery
