import Mathlib.Data.List.Basic
import TaskQuery.Json.Reader
/-!
# The grammar of JSON

The documents of RFC 8259, with the tree that each of them spells. No word of such a document
is `NaN` or `Infinity`: their capitals do not stand outside its strings.
-/

namespace TaskQuery.Json

/-- A JSON value as it is written: a number is its text. -/
inductive Tree where
  | null
  | bool (b : Bool)
  | number (text : List Char)
  | string (content : List Char)
  | array (items : List Tree)
  | object (members : List (List Char × Tree))

def Tree.member? (name : List Char) : Tree → Option Tree
  | .object members => members.lookup name
  | _ => none

/-! ## Numbers -/

def IsDigits (ds : List Char) : Prop :=
  ds ≠ [] ∧ ∀ d ∈ ds, d.isDigit = true

/-- The digits in front of the point: a zero alone, or digits that start with another one. -/
inductive IsWhole : List Char → Prop where
  | zero : IsWhole ['0']
  | digits {c : Char} {ds : List Char} (first : c.isDigit = true) (nonzero : c ≠ '0')
      (others : ∀ d ∈ ds, d.isDigit = true) : IsWhole (c :: ds)

inductive IsFraction : List Char → Prop where
  | absent : IsFraction []
  | present {ds : List Char} (digits : IsDigits ds) : IsFraction ('.' :: ds)

inductive IsExponent : List Char → Prop where
  | absent : IsExponent []
  | present {mark : Char} {sign ds : List Char} (marked : mark = 'e' ∨ mark = 'E')
      (signed : sign = [] ∨ sign = ['+'] ∨ sign = ['-']) (digits : IsDigits ds) :
      IsExponent (mark :: (sign ++ ds))

inductive IsMagnitude : List Char → Prop where
  | parts {whole fraction exponent : List Char} (hw : IsWhole whole) (hf : IsFraction fraction)
      (he : IsExponent exponent) : IsMagnitude (whole ++ fraction ++ exponent)

inductive IsNumber : List Char → Prop where
  | unsigned {cs : List Char} (magnitude : IsMagnitude cs) : IsNumber cs
  | negative {cs : List Char} (magnitude : IsMagnitude cs) : IsNumber ('-' :: cs)

/-! ## Strings -/

inductive IsUnit : List Char → Nat → Prop where
  | digits {p q r s : Char} {a b c d : Nat} (first : Text.hexValue? p = some a)
      (second : Text.hexValue? q = some b) (third : Text.hexValue? r = some c)
      (fourth : Text.hexValue? s = some d) :
      IsUnit [p, q, r, s] (((a * 16 + b) * 16 + c) * 16 + d)

/-- The characters that a text between quotes spells. The replacement character stands for half a
pair of code units that stands alone; where there is none the characters are the code points of
the text. -/
inductive SpellsChars : List Char → List Char → Prop where
  | nil : SpellsChars [] []
  | plain {c : Char} {content cs : List Char} (visible : 0x20 ≤ c.toNat) (quote : c ≠ '"')
      (backslash : c ≠ '\\') (rest : SpellsChars content cs) : SpellsChars (c :: content) (c :: cs)
  | short {mark c : Char} {content cs : List Char} (escape : simpleEscape? mark = some c)
      (rest : SpellsChars content cs) : SpellsChars (c :: content) ('\\' :: mark :: cs)
  | unit {n : Nat} {ds content cs : List Char} (unit : IsUnit ds n)
      (whole : isHighHalf n = false ∧ isLowHalf n = false) (rest : SpellsChars content cs) :
      SpellsChars (Char.ofNat n :: content) ('\\' :: 'u' :: (ds ++ cs))
  | pair {high low : Nat} {ds es content cs : List Char} (first : IsUnit ds high)
      (second : IsUnit es low) (halves : isHighHalf high = true ∧ isLowHalf low = true)
      (rest : SpellsChars content cs) :
      SpellsChars (pairChar high low :: content)
        ('\\' :: 'u' :: (ds ++ '\\' :: 'u' :: (es ++ cs)))
  | half {n : Nat} {ds content cs : List Char} (unit : IsUnit ds n)
      (half : isHighHalf n = true ∨ isLowHalf n = true)
      (alone : isHighHalf n = true → ∀ es low after, IsUnit es low →
        cs = '\\' :: 'u' :: (es ++ after) → isLowHalf low = false)
      (rest : SpellsChars content cs) :
      SpellsChars (Char.ofNat 0xFFFD :: content) ('\\' :: 'u' :: (ds ++ cs))

/-! ## Values -/

def IsBlanks (cs : List Char) : Prop :=
  ∀ c ∈ cs, isBlank c = true

inductive Part where
  | value (t : Tree)
  | items (ts : List Tree)
  | members (ms : List (List Char × Tree))

/-- The texts of the parts of a document. Items and members have the blank characters around
them. -/
inductive Spells : Part → List Char → Prop where
  | null : Spells (.value .null) "null".toList
  | true : Spells (.value (.bool true)) "true".toList
  | false : Spells (.value (.bool false)) "false".toList
  | number {cs : List Char} (number : IsNumber cs) : Spells (.value (.number cs)) cs
  | string {content cs : List Char} (chars : SpellsChars content cs) :
      Spells (.value (.string content)) ('"' :: (cs ++ ['"']))
  | emptyArray {blanks : List Char} (blank : IsBlanks blanks) :
      Spells (.value (.array [])) ('[' :: (blanks ++ [']']))
  | array {ts : List Tree} {cs : List Char} (items : Spells (.items ts) cs) :
      Spells (.value (.array ts)) ('[' :: (cs ++ [']']))
  | emptyObject {blanks : List Char} (blank : IsBlanks blanks) :
      Spells (.value (.object [])) ('\x7b' :: (blanks ++ ['\x7d']))
  | object {ms : List (List Char × Tree)} {cs : List Char} (members : Spells (.members ms) cs) :
      Spells (.value (.object ms)) ('\x7b' :: (cs ++ ['\x7d']))
  | item {t : Tree} {before cs after : List Char} (front : IsBlanks before)
      (value : Spells (.value t) cs) (back : IsBlanks after) :
      Spells (.items [t]) (before ++ cs ++ after)
  | items {t : Tree} {ts : List Tree} {item others : List Char} (first : Spells (.items [t]) item)
      (rest : Spells (.items ts) others) : Spells (.items (t :: ts)) (item ++ ',' :: others)
  | member {name : List Char} {t : Tree} {before key after cs : List Char}
      (front : IsBlanks before) (chars : SpellsChars name key) (back : IsBlanks after)
      (value : Spells (.items [t]) cs) :
      Spells (.members [(name, t)]) (before ++ '"' :: (key ++ '"' :: (after ++ ':' :: cs)))
  | members {m : List Char × Tree} {ms : List (List Char × Tree)} {member others : List Char}
      (first : Spells (.members [m]) member) (rest : Spells (.members ms) others) :
      Spells (.members (m :: ms)) (member ++ ',' :: others)

/-- A text that is one document: a value with blank characters around it. -/
def Document (t : Tree) (cs : List Char) : Prop :=
  Spells (.items [t]) cs

/-! ## Outside the strings -/

/-- Where a character of a text stands: outside strings, inside one, or inside one and after a
backslash. -/
inductive Zone where
  | outside
  | inside
  | escaped
  deriving DecidableEq, Repr

def Zone.after (z : Zone) (c : Char) : Zone :=
  match z with
  | .outside => if c = '"' then .inside else .outside
  | .inside => if c = '"' then .outside else if c = '\\' then .escaped else .inside
  | .escaped => .inside

def bareChars (z : Zone) : List Char → List Char
  | [] => []
  | c :: rest => (if z = .outside then [c] else []) ++ bareChars (z.after c) rest

/-- All strings that start in a text end in it. -/
def Closed (cs : List Char) : Prop :=
  cs.foldl Zone.after .outside = .outside

instance : DecidablePred Closed :=
  fun _ => inferInstanceAs (Decidable (_ = _))

/-- A capital of `NaN` or `Infinity` stands outside the strings of a text. -/
def ShowsWord (cs : List Char) : Prop :=
  'N' ∈ bareChars .outside cs ∨ 'I' ∈ bareChars .outside cs

instance : DecidablePred ShowsWord :=
  fun _ => inferInstanceAs (Decidable (_ ∨ _))

variable {a b cs content : List Char} {z : Zone} {c : Char}

theorem bareChars_append (z : Zone) (a b : List Char) :
    bareChars z (a ++ b) = bareChars z a ++ bareChars (a.foldl Zone.after z) b := by
  induction a generalizing z with
  | nil => rfl
  | cons c rest ih =>
      rw [List.cons_append, bareChars, bareChars, List.foldl_cons, ih, List.append_assoc]

theorem Closed.append (ha : Closed a) (hb : Closed b) : Closed (a ++ b) := by
  unfold Closed
  rw [List.foldl_append, ha]
  exact hb

theorem Closed.cons (hc : c ≠ '"') (h : Closed cs) : Closed (c :: cs) := by
  unfold Closed
  rw [List.foldl_cons, Zone.after, if_neg hc]
  exact h

theorem Closed.of_no_quote (h : ∀ c ∈ cs, c ≠ '"') : Closed cs := by
  induction cs with
  | nil => rfl
  | cons c rest ih =>
      rw [List.forall_mem_cons] at h
      exact (ih h.2).cons h.1

theorem bareChars_of_no_quote (h : ∀ c ∈ cs, c ≠ '"') : bareChars .outside cs = cs := by
  induction cs with
  | nil => rfl
  | cons c rest ih =>
      rw [List.forall_mem_cons] at h
      rw [bareChars, Zone.after, if_neg h.1, ih h.2]
      rfl

theorem showsWord_append (ha : Closed a) : ShowsWord (a ++ b) ↔ ShowsWord a ∨ ShowsWord b := by
  unfold ShowsWord
  rw [bareChars_append, ha, List.mem_append, List.mem_append]
  exact or_or_or_comm

theorem showsWord_of_no_quote (h : ∀ c ∈ cs, c ≠ '"') :
    ShowsWord cs ↔ 'N' ∈ cs ∨ 'I' ∈ cs := by
  rw [ShowsWord, bareChars_of_no_quote h]

theorem not_showsWord_of_chars (h : ∀ c ∈ cs, c ≠ '"' ∧ c ≠ 'N' ∧ c ≠ 'I') :
    ¬ ShowsWord cs := by
  rw [showsWord_of_no_quote fun c hc => (h c hc).1]
  exact fun hword => hword.elim (fun hc => (h _ hc).2.1 rfl) fun hc => (h _ hc).2.2 rfl

/-! ### Strings -/

/-- Characters of which none ends a string or escapes another. -/
theorem foldl_inside (h : ∀ c ∈ cs, c ≠ '"' ∧ c ≠ '\\') :
    cs.foldl Zone.after .inside = .inside ∧ bareChars .inside cs = [] := by
  induction cs with
  | nil => exact ⟨rfl, rfl⟩
  | cons c rest ih =>
      rw [List.forall_mem_cons] at h
      rw [List.foldl_cons, bareChars, Zone.after, if_neg h.1.1, if_neg h.1.2]
      exact ih h.2

theorem not_quote_of_hexValue? {n : Nat} (h : Text.hexValue? c = some n) :
    c ≠ '"' ∧ c ≠ '\\' := by
  have hquote : Text.hexValue? '"' = none := by decide
  have hbackslash : Text.hexValue? '\\' = none := by decide
  constructor
  · rintro rfl
    rw [hquote] at h
    cases h
  · rintro rfl
    rw [hbackslash] at h
    cases h

theorem IsUnit.foldl_inside {ds : List Char} {n : Nat} (h : IsUnit ds n) (rest : List Char) :
    (ds ++ rest).foldl Zone.after .inside = rest.foldl Zone.after .inside ∧
      bareChars .inside (ds ++ rest) = bareChars .inside rest := by
  have hdigits : ∀ c ∈ ds, c ≠ '"' ∧ c ≠ '\\' := by
    cases h with
    | digits first second third fourth =>
        simp only [List.forall_mem_cons]
        exact ⟨not_quote_of_hexValue? first, not_quote_of_hexValue? second,
          not_quote_of_hexValue? third, not_quote_of_hexValue? fourth, by simp⟩
  obtain ⟨hzone, hbare⟩ := Json.foldl_inside hdigits
  rw [List.foldl_append, bareChars_append, hzone, hbare]
  exact ⟨rfl, rfl⟩

/-- What stands between quotes neither ends the string nor stands outside of it. -/
theorem SpellsChars.foldl_inside (h : SpellsChars content cs) :
    cs.foldl Zone.after .inside = .inside ∧ bareChars .inside cs = [] := by
  induction h with
  | nil => exact ⟨rfl, rfl⟩
  | plain visible quote backslash rest ih =>
      rw [List.foldl_cons, bareChars, Zone.after, if_neg quote, if_neg backslash]
      exact ih
  | short escape rest ih => exact ih
  | unit unit whole rest ih =>
      obtain ⟨hzone, hbare⟩ := unit.foldl_inside (_ : List Char)
      exact ⟨hzone.trans ih.1, hbare.trans ih.2⟩
  | pair first second halves rest ih =>
      obtain ⟨hzone, hbare⟩ := second.foldl_inside (_ : List Char)
      obtain ⟨hzone', hbare'⟩ := first.foldl_inside (_ : List Char)
      exact ⟨hzone'.trans (hzone.trans ih.1), hbare'.trans (hbare.trans ih.2)⟩
  | half unit half alone rest ih =>
      obtain ⟨hzone, hbare⟩ := unit.foldl_inside (_ : List Char)
      exact ⟨hzone.trans ih.1, hbare.trans ih.2⟩

theorem SpellsChars.closed (h : SpellsChars content cs) : Closed ('"' :: (cs ++ ['"'])) := by
  have hinside : Zone.after .outside '"' = .inside := rfl
  unfold Closed
  rw [List.foldl_cons, hinside, List.foldl_append, h.foldl_inside.1]
  rfl

theorem SpellsChars.not_showsWord (h : SpellsChars content cs) :
    ¬ ShowsWord ('"' :: (cs ++ ['"'])) := by
  have hinside : Zone.after .outside '"' = .inside := rfl
  unfold ShowsWord
  rw [bareChars, hinside, bareChars_append, h.foldl_inside.1, h.foldl_inside.2]
  decide

/-! ### Documents -/

def isNumberChar (c : Char) : Bool :=
  c.isDigit || ['.', 'e', 'E', '+', '-'].contains c

theorem isNumberChar_of_isDigit {ds : List Char} (h : ∀ d ∈ ds, d.isDigit = true) :
    ∀ d ∈ ds, isNumberChar d = true :=
  fun d hd => Bool.or_eq_true_iff.2 (.inl (h d hd))

theorem IsMagnitude.isNumberChar (h : IsMagnitude cs) : ∀ c ∈ cs, isNumberChar c = true := by
  cases h with
  | @parts whole fraction exponent hw hf he =>
      have hwhole : ∀ c ∈ whole, Json.isNumberChar c = true := by
        cases hw with
        | zero => exact List.forall_mem_singleton.2 rfl
        | digits first nonzero others =>
            exact isNumberChar_of_isDigit (List.forall_mem_cons.2 ⟨first, others⟩)
      have hfraction : ∀ c ∈ fraction, Json.isNumberChar c = true := by
        cases hf with
        | absent => exact fun c hc => absurd hc List.not_mem_nil
        | present digits =>
            exact List.forall_mem_cons.2 ⟨by decide, isNumberChar_of_isDigit digits.2⟩
      have hexponent : ∀ c ∈ exponent, Json.isNumberChar c = true := by
        cases he with
        | absent => exact fun c hc => absurd hc List.not_mem_nil
        | @present mark sign ds marked signed digits =>
            have hsign : ∀ c ∈ sign, Json.isNumberChar c = true := by
              rcases signed with rfl | rfl | rfl
              all_goals exact List.all_eq_true.1 rfl
            rw [List.forall_mem_cons, List.forall_mem_append]
            refine ⟨?_, hsign, isNumberChar_of_isDigit digits.2⟩
            rcases marked with rfl | rfl
            all_goals decide
      rw [List.forall_mem_append, List.forall_mem_append]
      exact ⟨⟨hwhole, hfraction⟩, hexponent⟩

theorem IsNumber.isNumberChar (h : IsNumber cs) : ∀ c ∈ cs, isNumberChar c = true := by
  cases h with
  | unsigned magnitude => exact magnitude.isNumberChar
  | negative magnitude => exact List.forall_mem_cons.2 ⟨by decide, magnitude.isNumberChar⟩

theorem IsNumber.chars (h : IsNumber cs) : ∀ c ∈ cs, c ≠ '"' ∧ c ≠ 'N' ∧ c ≠ 'I' := by
  intro c hc
  have hnumber := h.isNumberChar c hc
  refine ⟨?_, ?_, ?_⟩
  all_goals
    rintro rfl
    exact absurd hnumber (by decide)

theorem IsBlanks.chars (h : IsBlanks cs) : ∀ c ∈ cs, c ≠ '"' ∧ c ≠ 'N' ∧ c ≠ 'I' := by
  intro c hc
  have hblank := h c hc
  refine ⟨?_, ?_, ?_⟩
  all_goals
    rintro rfl
    exact absurd hblank (by decide)

structure Wordless (cs : List Char) : Prop where
  closed : Closed cs
  words : ¬ ShowsWord cs

namespace Wordless

theorem of_chars (h : ∀ c ∈ cs, c ≠ '"' ∧ c ≠ 'N' ∧ c ≠ 'I') : Wordless cs where
  closed := .of_no_quote fun c hc => (h c hc).1
  words := not_showsWord_of_chars h

theorem of_string (h : SpellsChars content cs) : Wordless ('"' :: (cs ++ ['"'])) where
  closed := h.closed
  words := h.not_showsWord

theorem append (ha : Wordless a) (hb : Wordless b) : Wordless (a ++ b) where
  closed := ha.closed.append hb.closed
  words := by
    rw [showsWord_append ha.closed]
    exact fun h => h.elim ha.words hb.words

theorem cons (hc : c ≠ '"' ∧ c ≠ 'N' ∧ c ≠ 'I') (h : Wordless cs) : Wordless (c :: cs) :=
  append (a := [c]) (of_chars (List.forall_mem_singleton.2 hc)) h

end Wordless

theorem Spells.wordless {p : Part} (h : Spells p cs) : Wordless cs := by
  have hclosing : ∀ c : Char, (c ≠ '"' ∧ c ≠ 'N' ∧ c ≠ 'I') → Wordless [c] :=
    fun c hc => .of_chars (List.forall_mem_singleton.2 hc)
  induction h with
  | null => exact ⟨by decide, by decide⟩
  | true => exact ⟨by decide, by decide⟩
  | false => exact ⟨by decide, by decide⟩
  | number number => exact .of_chars number.chars
  | string chars => exact .of_string chars
  | emptyArray blank =>
      exact .cons (by decide) (.append (.of_chars blank.chars) (hclosing _ (by decide)))
  | array items ih => exact .cons (by decide) (ih.append (hclosing _ (by decide)))
  | emptyObject blank =>
      exact .cons (by decide) (.append (.of_chars blank.chars) (hclosing _ (by decide)))
  | object members ih => exact .cons (by decide) (ih.append (hclosing _ (by decide)))
  | item front value back ih =>
      exact .append (.append (.of_chars front.chars) ih) (.of_chars back.chars)
  | items first rest ihf ihr => exact ihf.append (ihr.cons (by decide))
  | @member name t before key after cs front chars back value ih =>
      have hvalue : Wordless (after ++ ':' :: cs) :=
        .append (.of_chars back.chars) (ih.cons (by decide))
      have hmember := (Wordless.of_string chars).append hvalue
      rw [List.cons_append, List.append_assoc, List.singleton_append] at hmember
      exact .append (.of_chars front.chars) hmember
  | members first rest ihf ihr => exact ihf.append (ihr.cons (by decide))

theorem Document.not_showsWord {t : Tree} (h : Document t cs) : ¬ ShowsWord cs :=
  Spells.wordless h |>.words

end TaskQuery.Json
