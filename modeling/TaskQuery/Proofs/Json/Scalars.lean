import Mathlib.Data.List.TakeWhile
import TaskQuery.Proofs.Json.Grammar
/-!
# Strings and numbers are read

The texts that the grammar has for strings and for numbers are read as what they spell, up to
where they end.
-/

namespace TaskQuery.Json

variable {limit : Option Nat} {cs ds es rest after content whole fraction exponent : List Char}
  {n m : Nat}

/-! ## Characters up to a place -/

theorem takeWhile_of_head {p : Char → Bool} (hrest : ∀ c ∈ rest.head?, p c = false) :
    rest.takeWhile p = [] := by
  cases rest with
  | nil => rfl
  | cons c tail => exact List.takeWhile_cons_of_neg (by rw [hrest c rfl]; exact Bool.false_ne_true)

theorem dropWhile_of_head {p : Char → Bool} (hrest : ∀ c ∈ rest.head?, p c = false) :
    rest.dropWhile p = rest := by
  cases rest with
  | nil => rfl
  | cons c tail => exact List.dropWhile_cons_of_neg (by rw [hrest c rfl]; exact Bool.false_ne_true)

theorem span_of_all {p : Char → Bool} (hds : ∀ d ∈ ds, p d = true)
    (hrest : ∀ c ∈ rest.head?, p c = false) :
    (ds ++ rest).takeWhile p = ds ∧ (ds ++ rest).dropWhile p = rest := by
  rw [List.takeWhile_append_of_pos hds, List.dropWhile_append_of_pos hds, takeWhile_of_head hrest,
    dropWhile_of_head hrest, List.append_nil]
  exact ⟨rfl, rfl⟩

/-! ## Strings -/

theorem hexNumber?_unit (unit : IsUnit ds n) (rest : List Char) :
    hexNumber? (ds ++ rest) = some n := by
  cases unit with
  | digits first second third fourth =>
      simp [hexNumber?, first, second, third, fourth]

theorem IsUnit.length_eq (unit : IsUnit ds n) : ds.length = 4 := by
  cases unit with
  | digits => rfl

theorem readUnicode_alone (unit : IsUnit ds n) (hrest : rest ≠ [])
    (alone : isHighHalf n = true → ∀ second, rest = '\\' :: 'u' :: second →
      ∃ m, hexNumber? second = some m ∧ isLowHalf m = false) :
    readUnicode (ds ++ rest) = .ok (unitChar n, 4) := by
  have hlong : ¬ (ds ++ rest).length ≤ 4 := by
    have hpos := List.length_pos_iff.2 hrest
    rw [List.length_append, unit.length_eq]
    omega
  have hdrop : (ds ++ rest).drop 4 = rest := List.drop_left' unit.length_eq
  unfold readUnicode
  dsimp only
  rw [if_neg hlong, hexNumber?_unit unit, hdrop]
  dsimp only
  split
  · rename_i second
    split
    · rename_i hhigh
      obtain ⟨m, hm, hlow⟩ := alone (Bool.and_eq_true_iff.1 hhigh).1 second rfl
      rw [hm]
      dsimp only
      rw [hlow, if_neg Bool.false_ne_true]
    · rfl
  · rfl

theorem readUnicode_pair (first : IsUnit ds n) (second : IsUnit es m)
    (halves : isHighHalf n = true ∧ isLowHalf m = true) (hrest : rest ≠ []) :
    readUnicode (ds ++ '\\' :: 'u' :: (es ++ rest)) = .ok (pairChar n m, 10) := by
  have hpos := List.length_pos_iff.2 hrest
  have hlong : ¬ (ds ++ '\\' :: 'u' :: (es ++ rest)).length ≤ 4 := by
    rw [List.length_append, List.length_cons, List.length_cons, first.length_eq]
    omega
  have hsecond : 4 < (es ++ rest).length := by
    rw [List.length_append, second.length_eq]
    omega
  have hdrop : (ds ++ '\\' :: 'u' :: (es ++ rest)).drop 4 = '\\' :: 'u' :: (es ++ rest) :=
    List.drop_left' first.length_eq
  unfold readUnicode
  dsimp only
  rw [if_neg hlong, hexNumber?_unit first, hdrop]
  dsimp only
  split
  · rename_i later heq
    obtain rfl : es ++ rest = later := (List.cons.inj (List.cons.inj heq).2).2
    rw [halves.1, decide_eq_true hsecond, Bool.and_self, if_pos rfl, hexNumber?_unit second]
    dsimp only
    rw [halves.2, if_pos rfl]
  · rename_i hne
    exact absurd rfl (hne _)

theorem simpleEscape?_unit : simpleEscape? 'u' = none := by
  decide

theorem SpellsChars.unit_of_mark (h : SpellsChars content ('\\' :: 'u' :: cs)) :
    ∃ ds n rest, IsUnit ds n ∧ cs = ds ++ rest := by
  cases h with
  | plain visible quote backslash rest => exact absurd rfl backslash
  | short escape rest =>
      rw [simpleEscape?_unit] at escape
      cases escape
  | unit unit whole rest => exact ⟨_, _, _, unit, rfl⟩
  | pair first second halves rest => exact ⟨_, _, _, first, rfl⟩
  | half unit half alone rest => exact ⟨_, _, _, unit, rfl⟩

theorem next_half {second : List Char} (h : SpellsChars content cs)
    (heq : cs ++ '"' :: after = '\\' :: 'u' :: second)
    (alone : ∀ es m rest, IsUnit es m → cs = '\\' :: 'u' :: (es ++ rest) →
      isLowHalf m = false) :
    ∃ m, hexNumber? second = some m ∧ isLowHalf m = false := by
  match cs, h with
  | [], _ => exact absurd (List.cons.inj heq).1 (by decide)
  | [_], _ => exact absurd (List.cons.inj (List.cons.inj heq).2).1 (by decide)
  | _ :: _ :: tail, h =>
      obtain ⟨rfl, htail⟩ := List.cons.inj heq
      obtain ⟨rfl, rfl⟩ := List.cons.inj htail
      obtain ⟨es, m, rest, unit, rfl⟩ := h.unit_of_mark
      have hunit := hexNumber?_unit unit (rest ++ '"' :: after)
      rw [← List.append_assoc] at hunit
      exact ⟨m, hunit, alone es m rest unit rfl⟩

theorem readString_quote (opening : Nat) (after : List Char) :
    readString opening ('"' :: after) = .ok ([], after) := by
  rw [readString.eq_def]
  exact if_pos rfl

theorem readString_plain {c : Char} {opening : Nat} (visible : 0x20 ≤ c.toNat) (quote : c ≠ '"')
    (backslash : c ≠ '\\') (hrest : readString opening cs = .ok (content, after)) :
    readString opening (c :: cs) = .ok (c :: content, after) := by
  rw [readString.eq_def]
  dsimp only
  rw [if_neg quote, if_neg backslash, if_neg (Nat.not_lt.2 visible), hrest]
  rfl

theorem readString_short {mark c : Char} {opening : Nat} (escape : simpleEscape? mark = some c)
    (hrest : readString opening cs = .ok (content, after)) :
    readString opening ('\\' :: mark :: cs) = .ok (c :: content, after) := by
  have hbackslash : ¬ '\\' = '"' := by decide
  have hmark : mark ≠ 'u' := by
    rintro rfl
    rw [simpleEscape?_unit] at escape
    cases escape
  rw [readString.eq_def]
  dsimp only
  rw [if_neg hbackslash, if_pos rfl, if_neg hmark, escape]
  dsimp only
  rw [hrest]
  rfl

theorem readString_unicode {c : Char} {count opening : Nat}
    (hescape : readUnicode cs = .ok (c, count))
    (hrest : readString opening (cs.drop count) = .ok (content, after)) :
    readString opening ('\\' :: 'u' :: cs) = .ok (c :: content, after) := by
  have hbackslash : ¬ '\\' = '"' := by decide
  rw [readString.eq_def]
  dsimp only
  rw [if_neg hbackslash, if_pos rfl, if_pos rfl, hescape]
  change (readString opening (cs.drop count) >>= fun x => .ok (c :: x.1, x.2)) = _
  rw [hrest]
  rfl

theorem readString_spells (opening : Nat) (h : SpellsChars content cs) (after : List Char) :
    readString opening (cs ++ '"' :: after) = .ok (content, after) := by
  induction h with
  | nil => exact readString_quote opening after
  | plain visible quote backslash rest ih => exact readString_plain visible quote backslash ih
  | short escape rest ih => exact readString_short escape ih
  | @unit n ds content cs unit whole rest ih =>
      have hunit : unitChar n = Char.ofNat n := by
        unfold unitChar
        rw [whole.1, whole.2]
        rfl
      have hescape := readUnicode_alone unit (by simp : cs ++ '"' :: after ≠ [])
        fun hhigh => absurd hhigh (by rw [whole.1]; exact Bool.false_ne_true)
      rw [hunit] at hescape
      rw [List.cons_append, List.cons_append, List.append_assoc]
      refine readString_unicode hescape ?_
      rw [List.drop_left' unit.length_eq, ih]
  | @pair high low ds es content cs first second halves rest ih =>
      have hescape := readUnicode_pair first second halves (by simp : cs ++ '"' :: after ≠ [])
      have hsplit : ds ++ '\\' :: 'u' :: (es ++ (cs ++ '"' :: after)) =
          (ds ++ '\\' :: 'u' :: es) ++ (cs ++ '"' :: after) := by simp
      have hten : (ds ++ '\\' :: 'u' :: es).length = 10 := by
        rw [List.length_append, List.length_cons, List.length_cons, first.length_eq,
          second.length_eq]
      have hall : '\\' :: 'u' :: (ds ++ '\\' :: 'u' :: (es ++ cs)) ++ '"' :: after =
          '\\' :: 'u' :: (ds ++ '\\' :: 'u' :: (es ++ (cs ++ '"' :: after))) := by simp
      rw [hall]
      refine readString_unicode hescape ?_
      rw [hsplit, List.drop_left' hten, ih]
  | @half n ds content cs unit half alone rest ih =>
      have hunit : unitChar n = Char.ofNat 0xFFFD := by
        unfold unitChar
        exact if_pos (Bool.or_eq_true_iff.2 half)
      have hescape := readUnicode_alone unit (by simp : cs ++ '"' :: after ≠ [])
        fun hhigh second heq => next_half rest heq (alone hhigh)
      rw [hunit] at hescape
      rw [List.cons_append, List.cons_append, List.append_assoc]
      refine readString_unicode hescape ?_
      rw [List.drop_left' unit.length_eq, ih]

/-! ## Numbers -/

def exponentOf (cs : List Char) : Int :=
  let size := Number.splitSign (cs.drop 1)
  if size.1 then -(Number.ofDigits size.2 : Int) else Number.ofDigits size.2

def numeral (cs : List Char) : NumberText :=
  let unsigned := cs.dropWhile (· == '-')
  let behind := unsigned.dropWhile Char.isDigit
  { negative := cs.head? == some '-'
    whole := unsigned.takeWhile Char.isDigit
    fraction := (behind.dropWhile (· == '.')).takeWhile Char.isDigit
    exponent := exponentOf (behind.dropWhile fun c => c == '.' || c.isDigit)
    isInteger := behind.isEmpty }

/-- What ends a number: anything but a digit, a point or the mark of an exponent. -/
def EndsNumber (rest : List Char) : Prop :=
  ∀ c ∈ rest.head?, c.isDigit = false ∧ c ≠ '.' ∧ c ≠ 'e' ∧ c ≠ 'E'

theorem readWhole?_append (hw : IsWhole whole) (hrest : ∀ c ∈ rest.head?, c.isDigit = false) :
    readWhole? (whole ++ rest) = some (whole, rest) := by
  cases hw with
  | zero => rfl
  | @digits c ds first nonzero others =>
      obtain ⟨htake, hdrop⟩ := span_of_all others hrest
      rw [List.cons_append, readWhole?, if_neg nonzero, if_pos first, htake, hdrop]

theorem readFraction_append (negative : Bool) (whole : List Char) (hf : IsFraction fraction)
    (hrest : ∀ c ∈ rest.head?, c.isDigit = false ∧ c ≠ '.') :
    readFraction { negative, whole } (fraction ++ rest) =
      ({ negative, whole, fraction := fraction.drop 1, isInteger := fraction.isEmpty }, rest) := by
  cases hf with
  | absent =>
      unfold readFraction
      split
      · rename_i tail heq
        rw [List.nil_append] at heq
        exact absurd rfl (hrest '.' (by rw [heq]; rfl)).2
      · rfl
  | @present ds digits =>
      obtain ⟨htake, hdrop⟩ := span_of_all digits.2 fun c hc => (hrest c hc).1
      rw [List.cons_append, readFraction, htake, hdrop]
      obtain ⟨d, tail, rfl⟩ := List.exists_cons_of_ne_nil digits.1
      rfl

theorem splitSign_signed {sign : List Char} (signed : sign = [] ∨ sign = ['+'] ∨ sign = ['-'])
    (digits : IsDigits ds) (rest : List Char) :
    Number.splitSign (sign ++ (ds ++ rest)) = (sign == ['-'], ds ++ rest) := by
  rcases signed with rfl | rfl | rfl
  · obtain ⟨d, tail, rfl⟩ := List.exists_cons_of_ne_nil digits.1
    have hd := digits.2 d List.mem_cons_self
    unfold Number.splitSign
    split
    · rename_i heq
      exact absurd hd (by rw [(List.cons.inj heq).1]; decide)
    · rename_i heq
      exact absurd hd (by rw [(List.cons.inj heq).1]; decide)
    · rfl
  · rfl
  · rfl

theorem exponentOf_present {mark : Char} {sign : List Char}
    (signed : sign = [] ∨ sign = ['+'] ∨ sign = ['-']) (digits : IsDigits ds) :
    exponentOf (mark :: (sign ++ ds)) =
      if sign == ['-'] then -(Number.ofDigits ds : Int) else Number.ofDigits ds := by
  have hsplit := splitSign_signed signed digits []
  rw [List.append_nil] at hsplit
  unfold exponentOf
  rw [List.drop_one, List.tail_cons, hsplit]

theorem readExponent_append (n : NumberText) (hn : n.exponent = 0) (he : IsExponent exponent)
    (hrest : EndsNumber rest) :
    readExponent n (exponent ++ rest) =
      ({ n with exponent := exponentOf exponent, isInteger := n.isInteger && exponent.isEmpty },
        rest) := by
  cases he with
  | absent =>
      obtain ⟨negative, whole, fraction, exponent, isInteger⟩ := n
      obtain rfl : exponent = 0 := hn
      dsimp only
      rw [List.isEmpty_nil, Bool.and_true, List.nil_append]
      unfold readExponent
      split
      · rfl
      · rename_i mark tail
        obtain ⟨-, -, he, hE⟩ := hrest mark rfl
        exact if_neg (not_or.2 ⟨he, hE⟩)
  | @present mark sign ds marked signed digits =>
      obtain ⟨htake, hdrop⟩ := span_of_all digits.2 fun c hc => (hrest c hc).1
      rw [exponentOf_present signed digits, List.cons_append, List.append_assoc, readExponent,
        if_pos marked, splitSign_signed signed digits]
      dsimp only
      rw [htake, hdrop]
      obtain ⟨d, tail, rfl⟩ := List.exists_cons_of_ne_nil digits.1
      rw [List.isEmpty_cons, Bool.and_false]

/-! The whole number. -/

theorem isDigits_of_isWhole (hw : IsWhole whole) : IsDigits whole := by
  cases hw with
  | zero => exact ⟨List.cons_ne_nil _ _, List.forall_mem_singleton.2 rfl⟩
  | digits first nonzero others =>
      exact ⟨List.cons_ne_nil _ _, List.forall_mem_cons.2 ⟨first, others⟩⟩

theorem head?_exponent (he : IsExponent exponent) (hrest : EndsNumber rest) :
    ∀ c ∈ (exponent ++ rest).head?, c.isDigit = false ∧ c ≠ '.' := by
  cases he with
  | absent => exact fun c hc => ⟨(hrest c hc).1, (hrest c hc).2.1⟩
  | present marked signed digits =>
      rintro c ⟨⟩
      rcases marked with rfl | rfl
      · exact ⟨rfl, by decide⟩
      · exact ⟨rfl, by decide⟩

theorem head?_fraction (hf : IsFraction fraction)
    (hrest : ∀ c ∈ rest.head?, c.isDigit = false ∧ c ≠ '.') :
    ∀ c ∈ (fraction ++ rest).head?, c.isDigit = false := by
  cases hf with
  | absent => exact fun c hc => (hrest c hc).1
  | present digits =>
      rintro c ⟨⟩
      rfl

theorem endsNumber_nil : EndsNumber [] :=
  nofun

theorem isDigit_ne {d c : Char} (hd : d.isDigit = true) (hc : c.isDigit = false) : d ≠ c := by
  rintro rfl
  exact Bool.false_ne_true (hc.symm.trans hd)

theorem takeWhile_fraction (hf : IsFraction fraction)
    (hrest : ∀ c ∈ rest.head?, c.isDigit = false ∧ c ≠ '.') :
    ((fraction ++ rest).dropWhile (· == '.')).takeWhile Char.isDigit = fraction.drop 1 := by
  cases hf with
  | absent =>
      rw [List.nil_append, dropWhile_of_head fun c hc => beq_eq_false_iff_ne.2 (hrest c hc).2]
      exact takeWhile_of_head fun c hc => (hrest c hc).1
  | @present ds digits =>
      have hpoint : ∀ c ∈ (ds ++ rest).head?, (c == '.') = false := by
        obtain ⟨d, tail, rfl⟩ := List.exists_cons_of_ne_nil digits.1
        rintro c ⟨⟩
        exact beq_eq_false_iff_ne.2 (isDigit_ne (digits.2 d List.mem_cons_self) rfl)
      rw [List.cons_append, List.dropWhile_cons_of_pos rfl, dropWhile_of_head hpoint]
      exact (span_of_all digits.2 fun c hc => (hrest c hc).1).1

theorem numeral_parts {sign : List Char} (signed : sign = [] ∨ sign = ['-'])
    (hw : IsWhole whole) (hf : IsFraction fraction) (he : IsExponent exponent) :
    numeral (sign ++ (whole ++ (fraction ++ exponent))) =
      { negative := sign == ['-'], whole, fraction := fraction.drop 1
        exponent := exponentOf exponent
        isInteger := fraction.isEmpty && exponent.isEmpty } := by
  have hdigits := isDigits_of_isWhole hw
  have hexponent := head?_exponent he endsNumber_nil
  rw [List.append_nil] at hexponent
  obtain ⟨d, tail, rfl⟩ := List.exists_cons_of_ne_nil hdigits.1
  have hd : ¬ (d == '-') = true := by
    rw [beq_iff_eq]
    exact isDigit_ne (hdigits.2 d List.mem_cons_self) rfl
  have hunsigned : (sign ++ (d :: tail ++ (fraction ++ exponent))).dropWhile (· == '-') =
      d :: tail ++ (fraction ++ exponent) := by
    rcases signed with rfl | rfl
    · exact List.dropWhile_cons_of_neg hd
    · exact (List.dropWhile_cons_of_pos rfl).trans (List.dropWhile_cons_of_neg hd)
  have hnegative : ((sign ++ (d :: tail ++ (fraction ++ exponent))).head? == some '-') =
      (sign == ['-']) := by
    rcases signed with rfl | rfl
    · exact beq_eq_false_iff_ne.2 fun h => hd (beq_iff_eq.2 (Option.some.inj h))
    · rfl
  obtain ⟨hwhole, hbehind⟩ := span_of_all hdigits.2 (head?_fraction hf hexponent)
  have hsize : (fraction ++ exponent).dropWhile (fun c => c == '.' || c.isDigit) = exponent := by
    refine (span_of_all ?_ fun c hc => ?_).2
    · cases hf with
      | absent => exact nofun
      | present digits =>
          refine List.forall_mem_cons.2 ⟨rfl, fun c hc => ?_⟩
          rw [digits.2 c hc, Bool.or_true]
    · rw [(hexponent c hc).1, Bool.or_false]
      exact beq_eq_false_iff_ne.2 (hexponent c hc).2
  have hinteger : (fraction ++ exponent).isEmpty = (fraction.isEmpty && exponent.isEmpty) := by
    cases fraction <;> rfl
  unfold numeral
  dsimp only
  rw [hunsigned, hnegative, hwhole, hbehind, takeWhile_fraction hf hexponent, hsize, hinteger]

theorem IsNumber.parts (h : IsNumber cs) : ∃ sign whole fraction exponent,
    (sign = [] ∨ sign = ['-']) ∧ IsWhole whole ∧ IsFraction fraction ∧ IsExponent exponent ∧
      cs = sign ++ (whole ++ (fraction ++ exponent)) := by
  cases h with
  | unsigned magnitude =>
      cases magnitude with
      | parts hw hf he => exact ⟨[], _, _, _, .inl rfl, hw, hf, he, List.append_assoc _ _ _⟩
  | negative magnitude =>
      cases magnitude with
      | parts hw hf he =>
          exact ⟨['-'], _, _, _, .inr rfl, hw, hf, he, by rw [List.append_assoc]; rfl⟩

theorem sign_of_digits {sign rest : List Char} (signed : sign = [] ∨ sign = ['-'])
    (digits : IsDigits whole) :
    (match sign ++ (whole ++ rest) with
      | '-' :: unsigned => (true, unsigned)
      | _ => (false, sign ++ (whole ++ rest))) = (sign == ['-'], whole ++ rest) := by
  rcases signed with rfl | rfl
  · obtain ⟨d, others, rfl⟩ := List.exists_cons_of_ne_nil digits.1
    split
    · rename_i tail heq
      exact absurd (List.cons.inj heq).1 (isDigit_ne (digits.2 d List.mem_cons_self) rfl)
    · rfl
  · rfl

/-- A number is read up to its end. -/
theorem readNumber_append (h : IsNumber cs) (hrest : EndsNumber rest) :
    readNumber limit (cs ++ rest) = (numberValue limit (numeral cs)).map (·, rest) := by
  obtain ⟨sign, whole, fraction, exponent, signed, hw, hf, he, rfl⟩ := h.parts
  have hexponent := head?_exponent he hrest
  have hfraction := head?_fraction hf hexponent
  rw [numeral_parts signed hw hf he]
  simp only [List.append_assoc]
  unfold readNumber
  split
  rename_i negative unsigned hsigned
  obtain ⟨rfl, rfl⟩ :=
    Prod.mk.inj ((sign_of_digits signed (isDigits_of_isWhole hw)).symm.trans hsigned)
  rw [readWhole?_append hw hfraction]
  dsimp only
  rw [readFraction_append _ _ hf hexponent]
  dsimp only
  rw [readExponent_append _ rfl he hrest]
  dsimp only
  cases numberValue limit _ with
  | ok value => rfl
  | error failure => rfl

/-! ## Values that are neither lists nor mappings -/

theorem readScalar_string (h : SpellsChars content cs) (after : List Char) :
    readScalar limit ('"' :: (cs ++ '"' :: after)) =
      .ok (.text (String.ofList content), after) := by
  rw [readScalar, readString_spells _ h after]
  rfl

theorem IsNumber.first_digit (h : IsNumber cs) : ∃ sign d tail, (sign = [] ∨ sign = ['-']) ∧
    d.isDigit = true ∧ cs = sign ++ d :: tail := by
  have hfirst : ∀ {cs}, IsMagnitude cs → ∃ d tail, d.isDigit = true ∧ cs = d :: tail := by
    rintro cs ⟨hw, hf, he⟩
    cases hw with
    | zero => exact ⟨'0', _, rfl, rfl⟩
    | digits first nonzero others => exact ⟨_, _, first, rfl⟩
  cases h with
  | unsigned magnitude =>
      obtain ⟨d, tail, hd, rfl⟩ := hfirst magnitude
      exact ⟨[], d, tail, .inl rfl, hd, rfl⟩
  | negative magnitude =>
      obtain ⟨d, tail, hd, rfl⟩ := hfirst magnitude
      exact ⟨['-'], d, tail, .inr rfl, hd, rfl⟩

theorem find?_words_number {sign : List Char} {d : Char} (signed : sign = [] ∨ sign = ['-'])
    (hd : d.isDigit = true) (tail : List Char) :
    (words.find? fun word => word.1.toList.isPrefixOf (sign ++ d :: tail)) = none := by
  rw [List.find?_eq_none]
  intro word hword
  rw [List.isPrefixOf_iff_prefix]
  simp only [words, List.mem_cons, List.not_mem_nil, or_false] at hword
  rcases signed with rfl | rfl
  · have hhead : ∀ c rest, c.isDigit = false → ¬ c :: rest <+: [] ++ d :: tail :=
      fun c rest hc h => isDigit_ne hd hc (List.cons_prefix_cons.1 h).1.symm
    rcases hword with rfl | rfl | rfl | rfl | rfl | rfl
    all_goals exact hhead _ _ rfl
  · have hhead : ∀ c rest, c ≠ '-' → ¬ c :: rest <+: ['-'] ++ d :: tail :=
      fun c rest hc h => hc (List.cons_prefix_cons.1 h).1
    have hsecond : ∀ rest, ¬ '-' :: 'I' :: rest <+: ['-'] ++ d :: tail := fun rest h =>
      isDigit_ne hd rfl (List.cons_prefix_cons.1 (List.cons_prefix_cons.1 h).2).1.symm
    rcases hword with rfl | rfl | rfl | rfl | rfl | rfl
    · exact hhead _ _ (by decide)
    · exact hhead _ _ (by decide)
    · exact hhead _ _ (by decide)
    · exact hhead _ _ (by decide)
    · exact hhead _ _ (by decide)
    · exact hsecond _

theorem readScalar_number (h : IsNumber cs) (hafter : EndsNumber after) :
    readScalar limit (cs ++ after) = (numberValue limit (numeral cs)).map (·, after) := by
  rw [← readNumber_append h hafter]
  obtain ⟨sign, d, tail, signed, hd, rfl⟩ := h.first_digit
  have hfind := find?_words_number signed hd (tail ++ after)
  rw [← List.cons_append, ← List.append_assoc] at hfind
  unfold readScalar
  split
  · rename_i rest heq
    rcases signed with rfl | rfl
    · exact absurd (List.cons.inj heq).1 (isDigit_ne hd rfl)
    · exact absurd (List.cons.inj heq).1 (by decide)
  · rw [hfind]

end TaskQuery.Json
