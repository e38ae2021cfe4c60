import Mathlib.Algebra.Order.Ring.Nat
import Mathlib.Data.List.Induction
import TaskQuery.Proofs.Number.Numeral
/-!
# Decimal expansions

Every integer and every double without a sign is written by digits, and reading any exact
expansion gives it back: a double is a whole number of units, so it has an expansion that
ends, and rounding does not move it. Expansions beyond the greatest double are infinity.
-/

namespace TaskQuery

/-! ## Powers -/

theorem twoPow_add (a b : Nat) : twoPow (a + b) = twoPow a * twoPow b :=
  Nat.pow_add 2 a b

theorem twoPow_le {a b : Nat} (h : a ≤ b) : twoPow a ≤ twoPow b :=
  Nat.pow_le_pow_right (by omega) h

theorem lt_of_twoPow_lt {a b : Nat} (h : twoPow a < twoPow b) : a < b := by
  by_contra hge
  exact absurd h (Nat.not_lt.2 (twoPow_le (Nat.le_of_not_lt hge)))

theorem twoPow_log2_le {n : Nat} (h : n ≠ 0) : twoPow n.log2 ≤ n :=
  Nat.log2_self_le h

theorem lt_twoPow_log2 (n : Nat) : n < twoPow (n.log2 + 1) :=
  Nat.lt_log2_self

theorem tenPow_pos (k : Nat) : 0 < Nat.pow 10 k :=
  Nat.pow_pos (by omega)

/-- Three decimal places are less than ten binary ones. -/
theorem tenPow_cubed_le (k : Nat) :
    Nat.pow 10 k * Nat.pow 10 k * Nat.pow 10 k ≤ twoPow (10 * k) := by
  have hcube : Nat.pow 10 k * Nat.pow 10 k * Nat.pow 10 k = (10 ^ 3) ^ k := by
    change 10 ^ k * 10 ^ k * 10 ^ k = (10 ^ 3) ^ k
    rw [← Nat.pow_mul, ← Nat.pow_add, ← Nat.pow_add]
    congr 1
    omega
  have hten : twoPow (10 * k) = (2 ^ 10) ^ k := Nat.pow_mul 2 10 k
  rw [hcube, hten]
  exact Nat.pow_le_pow_left (by decide) k

/-- One decimal place is more than three binary ones, and many are much more. -/
theorem twoPow_le_tenPow {k : Nat} (h : 332 ≤ k) : twoPow (3 * k + 106) ≤ Nat.pow 10 k := by
  induction k, h using Nat.le_induction with
  | base => decide +kernel
  | succ k h ih =>
      have height : twoPow (3 * (k + 1) + 106) = 8 * twoPow (3 * k + 106) := by
        rw [show 3 * (k + 1) + 106 = 3 + (3 * k + 106) by omega, twoPow_add]
        rfl
      have hten : Nat.pow 10 (k + 1) = 10 * Nat.pow 10 k := Nat.pow_succ'
      omega

theorem tenPow_eq (k : Nat) : Nat.pow 10 k = Nat.pow 5 k * twoPow k :=
  Nat.mul_pow 5 2 k

theorem unitsPerOne_eq : unitsPerOne = twoPow 1074 := rfl

-- These powers are for the kernel only: nothing below may write them out.
attribute [local irreducible] twoPow unitsPerOne

theorem limit_eq : twoPow 2098 = twoPow 1024 * unitsPerOne := by
  rw [unitsPerOne_eq, ← twoPow_add]

/-! ## Rounding -/

theorem roundHalfEven_mul (quotient : Nat) {den : Nat} (h : 0 < den) :
    roundHalfEven (quotient * den) den = quotient := by
  simp [roundHalfEven, Nat.mul_div_cancel _ h, h]

theorem le_roundHalfEven (num den : Nat) : num / den ≤ roundHalfEven num den := by
  unfold roundHalfEven
  dsimp only
  split <;> omega

namespace Double

variable {units num den mantissa places : Nat}

theorem ofRatio_exact (negative : Bool) (h : Representable units) (hden : 0 < den)
    (heq : num * unitsPerOne = units * den) :
    ofRatio negative num den = .finite negative units h := by
  obtain ⟨quotient, hquotient⟩ := Nat.dvd_of_mod_eq_zero h.2
  have hround : roundHalfEven (units * den) (den * twoPow (units.log2 - 52)) *
      twoPow (units.log2 - 52) = units := by
    have hscaled : units * den = quotient * (den * twoPow (units.log2 - 52)) := by
      rw [Nat.mul_comm units den]
      conv_lhs => rw [hquotient]
      ac_rfl
    rw [hscaled, roundHalfEven_mul quotient (Nat.mul_pos hden (twoPow_pos _)), Nat.mul_comm]
    exact hquotient.symm
  rw [ofRatio, heq, Nat.mul_div_cancel _ hden, hround, ofUnits, dif_pos h]

theorem ofRatio_overflow (negative : Bool) (hden : 0 < den)
    (h : twoPow 2098 * den ≤ num * unitsPerOne) :
    ofRatio negative num den = .infinite negative := by
  have hscaled : twoPow 2098 ≤ num * unitsPerOne / den := (Nat.le_div_iff_mul_le hden).2 h
  generalize hs : num * unitsPerOne / den = scaled at hscaled
  have hne : scaled ≠ 0 := Nat.ne_of_gt (Nat.lt_of_lt_of_le (twoPow_pos _) hscaled)
  have hlog : 2098 ≤ scaled.log2 := by
    have hlt := Nat.lt_of_le_of_lt hscaled (lt_twoPow_log2 scaled)
    have := lt_of_twoPow_lt hlt
    omega
  have hlarge : twoPow 2098 ≤
      roundHalfEven (num * unitsPerOne) (den * twoPow (scaled.log2 - 52)) *
        twoPow (scaled.log2 - 52) := by
    have hquotient : twoPow 52 ≤ num * unitsPerOne / (den * twoPow (scaled.log2 - 52)) := by
      rw [← Nat.div_div_eq_div_mul, hs, Nat.le_div_iff_mul_le (twoPow_pos _), ← twoPow_add]
      have hsum : 52 + (scaled.log2 - 52) = scaled.log2 := by omega
      rw [hsum]
      exact twoPow_log2_le hne
    calc twoPow 2098 ≤ twoPow 52 * twoPow (scaled.log2 - 52) := by
          rw [← twoPow_add]
          exact twoPow_le (by omega)
      _ ≤ _ := Nat.mul_le_mul_right _ (hquotient.trans (le_roundHalfEven _ _))
  rw [ofRatio, hs, ofUnits, dif_neg]
  rintro ⟨hlt, -⟩
  exact absurd hlt (Nat.not_lt.2 hlarge)

/-! ## Decimals -/

/-- A decimal below the limit is not taken for infinity by its size. -/
theorem not_large (hm : mantissa ≠ 0)
    (h : mantissa * unitsPerOne < twoPow 2098 * Nat.pow 10 places) :
    ¬ (310 < (mantissa.log2 * 3 / 10 : Int) + -(places : Int)) := by
  have hmantissa : mantissa < twoPow 1024 * Nat.pow 10 places := by
    rw [limit_eq, Nat.mul_right_comm] at h
    exact Nat.lt_of_mul_lt_mul_right h
  have hpower : twoPow mantissa.log2 < twoPow 1024 * Nat.pow 10 places :=
    Nat.lt_of_le_of_lt (twoPow_log2_le hm) hmantissa
  have hcube : twoPow (3 * mantissa.log2) < twoPow (3 * 1024 + 10 * places) := by
    calc twoPow (3 * mantissa.log2)
        = twoPow mantissa.log2 * twoPow mantissa.log2 * twoPow mantissa.log2 := by
          rw [← twoPow_add, ← twoPow_add]
          congr 1
          omega
      _ < (twoPow 1024 * Nat.pow 10 places) * (twoPow 1024 * Nat.pow 10 places) *
            (twoPow 1024 * Nat.pow 10 places) :=
          Nat.mul_lt_mul'' (Nat.mul_lt_mul'' hpower hpower) hpower
      _ = (twoPow 1024 * twoPow 1024 * twoPow 1024) *
            (Nat.pow 10 places * Nat.pow 10 places * Nat.pow 10 places) := by ac_rfl
      _ ≤ (twoPow 1024 * twoPow 1024 * twoPow 1024) * twoPow (10 * places) :=
          Nat.mul_le_mul_left _ (tenPow_cubed_le places)
      _ = twoPow (3 * 1024 + 10 * places) := by
          rw [← twoPow_add, ← twoPow_add, ← twoPow_add]
  have hlog := lt_of_twoPow_lt hcube
  omega

/-- A decimal of one unit or more is not taken for zero by its size. -/
theorem not_small (h : Nat.pow 10 places ≤ mantissa * unitsPerOne) :
    ¬ ((mantissa.log2 / 3 : Int) + 2 + -(places : Int) < -330) := by
  intro hsmall
  have hplaces : 332 ≤ places := by omega
  have hlt : twoPow (3 * places + 106) < twoPow (mantissa.log2 + 1 + 1074) := by
    calc twoPow (3 * places + 106) ≤ Nat.pow 10 places := twoPow_le_tenPow hplaces
      _ ≤ mantissa * unitsPerOne := h
      _ < twoPow (mantissa.log2 + 1) * unitsPerOne :=
          Nat.mul_lt_mul_of_pos_right (lt_twoPow_log2 mantissa) unitsPerOne_pos
      _ = twoPow (mantissa.log2 + 1 + 1074) := by rw [unitsPerOne_eq, ← twoPow_add]
  have hlog := lt_of_twoPow_lt hlt
  omega

theorem ofDecimal_eq_ofRatio (negative : Bool) (hm : mantissa ≠ 0) (hplaces : 0 < places)
    (hlarge : ¬ (310 < (mantissa.log2 * 3 / 10 : Int) + -(places : Int)))
    (hsmall : Nat.pow 10 places ≤ mantissa * unitsPerOne) :
    ofDecimal negative mantissa (-(places : Int)) =
      ofRatio negative mantissa (Nat.pow 10 places) := by
  unfold ofDecimal
  rw [if_neg hm, if_neg hlarge, if_neg (not_small hsmall), if_neg (by omega), Int.neg_neg,
    Int.toNat_natCast]

theorem ofDecimal_exact (negative : Bool) (h : Representable units) (hplaces : 0 < places)
    (heq : mantissa * unitsPerOne = units * Nat.pow 10 places) :
    ofDecimal negative mantissa (-(places : Int)) = .finite negative units h := by
  have hten := tenPow_pos places
  by_cases hm : mantissa = 0
  · subst hm
    rw [Nat.zero_mul] at heq
    obtain rfl : units = 0 := by
      rcases Nat.mul_eq_zero.1 heq.symm with hz | hz
      · exact hz
      · omega
    rw [ofDecimal, if_pos rfl, ofUnits, dif_pos h]
  · have hunits : 0 < units := by
      have hpos := Nat.mul_pos (Nat.pos_of_ne_zero hm) unitsPerOne_pos
      rw [heq] at hpos
      exact Nat.pos_of_mul_pos_right hpos
    have hsmall : Nat.pow 10 places ≤ mantissa * unitsPerOne := by
      rw [heq]
      exact Nat.le_mul_of_pos_left _ hunits
    have hlarge : mantissa * unitsPerOne < twoPow 2098 * Nat.pow 10 places := by
      rw [heq]
      exact Nat.mul_lt_mul_of_pos_right h.1 hten
    rw [ofDecimal_eq_ofRatio negative hm hplaces (not_large hm hlarge) hsmall]
    exact ofRatio_exact negative h hten heq

theorem ofDecimal_overflow (negative : Bool) (hplaces : 0 < places)
    (h : twoPow 2098 * Nat.pow 10 places ≤ mantissa * unitsPerOne) :
    ofDecimal negative mantissa (-(places : Int)) = .infinite negative := by
  have hten := tenPow_pos places
  have hm : mantissa ≠ 0 := by
    rintro rfl
    have hpos := Nat.mul_pos (twoPow_pos 2098) hten
    omega
  by_cases hlarge : 310 < (mantissa.log2 * 3 / 10 : Int) + -(places : Int)
  · unfold ofDecimal
    rw [if_neg hm, if_pos hlarge]
  · have hsmall : Nat.pow 10 places ≤ mantissa * unitsPerOne :=
      (Nat.le_mul_of_pos_left _ (twoPow_pos 2098)).trans h
    rw [ofDecimal_eq_ofRatio negative hm hplaces hlarge hsmall]
    exact ofRatio_overflow negative hten h

/-- A double that a text without a sign can be read as: no negative zero and not-a-number
either. -/
def Unsigned : Double → Prop
  | .nan => False
  | .infinite negative => negative = false
  | .finite negative _ _ => negative = false

theorem unsigned_ofUnits (units : Nat) : (ofUnits false units).Unsigned := by
  unfold ofUnits
  split <;> rfl

theorem unsigned_ofDecimal (mantissa : Nat) (exponent : Int) :
    (ofDecimal false mantissa exponent).Unsigned := by
  unfold ofDecimal
  split
  · exact unsigned_ofUnits 0
  split
  · rfl
  split
  · exact unsigned_ofUnits 0
  split
  · exact unsigned_ofUnits _
  · exact unsigned_ofUnits _

end Double

/-! ## Digits -/

theorem Text.digits_ne_nil (n : Nat) : Text.digits n ≠ [] := by
  rcases Nat.lt_or_ge n 10 with h | h
  · simp [Text.digits_of_lt h]
  · simp [Text.digits_of_ge h]

namespace Number

theorem ofDigits_concat (ds : List Char) (d : Char) :
    ofDigits (ds ++ [d]) = 10 * ofDigits ds + (d.toNat - 0x30) := by
  rw [ofDigits, Text.numberOfDigits, List.map_append, List.foldl_append]
  rfl

theorem ofDigits_append (as bs : List Char) :
    ofDigits (as ++ bs) = ofDigits as * Nat.pow 10 bs.length + ofDigits bs := by
  induction bs using List.reverseRecOn with
  | nil => simp [ofDigits, Text.numberOfDigits]
  | append_singleton bs d ih =>
      have hpow : Nat.pow 10 (bs.length + 1) = 10 * Nat.pow 10 bs.length := Nat.pow_succ'
      rw [← List.append_assoc, ofDigits_concat, ih, ofDigits_concat, List.length_append,
        List.length_singleton, hpow, Nat.mul_add, ← Nat.add_assoc]
      congr 2
      ac_rfl

theorem ofDigits_lt {ds : List Char} (h : ∀ d ∈ ds, d.isDigit = true) :
    ofDigits ds < Nat.pow 10 ds.length := by
  induction ds using List.reverseRecOn with
  | nil => simp [ofDigits, Text.numberOfDigits]
  | append_singleton ds d ih =>
      have hinit := ih fun c hc => h c (List.mem_append_left _ hc)
      obtain ⟨-, hd⟩ := toNat_of_isDigit (h d (by simp))
      have hpow : Nat.pow 10 (ds.length + 1) = 10 * Nat.pow 10 ds.length := Nat.pow_succ'
      rw [ofDigits_concat, List.length_append, List.length_singleton, hpow]
      omega

theorem length_digits_le {n : Nat} (k : Nat) (h : n < Nat.pow 10 (k + 1)) :
    (Text.digits n).length ≤ k + 1 := by
  induction k generalizing n with
  | zero =>
      have hlt : n < 10 := h
      rw [Text.digits_of_lt hlt]
      simp
  | succ k ih =>
      rcases Nat.lt_or_ge n 10 with hlt | hge
      · rw [Text.digits_of_lt hlt]
        simp
      · have hpow : Nat.pow 10 (k + 1 + 1) = 10 * Nat.pow 10 (k + 1) := Nat.pow_succ'
        have hdiv := ih (n := n / 10) (by omega)
        rw [Text.digits_of_ge hge, List.length_append, List.length_singleton]
        omega

/-- Writing a number anew takes no more digits, only fewer zeros. -/
theorem length_digits_ofDigits {ds : List Char} (hne : ds ≠ [])
    (h : ∀ d ∈ ds, d.isDigit = true) : (Text.digits (ofDigits ds)).length ≤ ds.length := by
  obtain ⟨k, hk⟩ : ∃ k, ds.length = k + 1 :=
    Nat.exists_eq_succ_of_ne_zero (mt List.length_eq_zero_iff.1 hne)
  have hlt := ofDigits_lt h
  rw [hk] at hlt ⊢
  exact length_digits_le k hlt

def lastDigits : Nat → Nat → List Char
  | 0, _ => []
  | places + 1, n => lastDigits places (n / 10) ++ [Text.digitChar n]

@[simp] theorem length_lastDigits (places n : Nat) : (lastDigits places n).length = places := by
  induction places generalizing n with
  | zero => rfl
  | succ places ih => rw [lastDigits, List.length_append, ih, List.length_singleton]

theorem isDigit_of_mem_lastDigits (places n : Nat) :
    ∀ d ∈ lastDigits places n, d.isDigit = true := by
  induction places generalizing n with
  | zero => simp [lastDigits]
  | succ places ih =>
      intro d hd
      rcases List.mem_append.1 hd with hd | hd
      · exact ih _ d hd
      · exact List.mem_singleton.1 hd ▸ Text.isDigit_digitChar n

theorem ofDigits_lastDigits (places n : Nat) :
    ofDigits (lastDigits places n) = n % Nat.pow 10 places := by
  induction places generalizing n with
  | zero => simp [lastDigits, ofDigits, Text.numberOfDigits, Nat.mod_one]
  | succ places ih =>
      have hpow : Nat.pow 10 (places + 1) = 10 * Nat.pow 10 places := Nat.pow_succ'
      rw [lastDigits, ofDigits_append_digit, ih, hpow, Nat.mod_mul]
      omega

/-- The decimal expansions of a double without a sign: exact for a finite one, and for
infinity any that is out of range. -/
inductive Expansion : Double → List Char → Prop where
  | finite {units : Nat} {whole fraction : List Char} (h : Representable units)
      (nonempty : whole ≠ []) (nonempty' : fraction ≠ [])
      (digits : ∀ d ∈ whole, d.isDigit = true) (digits' : ∀ d ∈ fraction, d.isDigit = true)
      (exact : ofDigits (whole ++ fraction) * unitsPerOne =
        units * Nat.pow 10 fraction.length) :
      Expansion (.finite false units h) (whole ++ '.' :: fraction)
  | infinite {whole fraction : List Char} (nonempty : whole ≠ []) (nonempty' : fraction ≠ [])
      (digits : ∀ d ∈ whole, d.isDigit = true) (digits' : ∀ d ∈ fraction, d.isDigit = true)
      (overflow : twoPow 1024 * Nat.pow 10 fraction.length ≤ ofDigits (whole ++ fraction)) :
      Expansion (.infinite false) (whole ++ '.' :: fraction)

theorem Expansion.numeral {d : Double} {cs : List Char} (h : Expansion d cs) : Numeral cs := by
  cases h with
  | finite _ hne hne' hd hd' _ => exact .decimal hne hne' hd hd'
  | infinite hne hne' hd hd' _ => exact .decimal hne hne' hd hd'

theorem Expansion.point_mem {d : Double} {cs : List Char} (h : Expansion d cs) : '.' ∈ cs := by
  cases h <;> simp

/-- Every expansion of a double is read as the double. -/
theorem Expansion.read {d : Double} {text : String} (h : Expansion d text.toList) :
    readDecimal? text = some d := by
  generalize hcs : text.toList = cs at h
  cases h with
  | finite hrep hne hne' hd hd' hexact =>
      rw [readDecimal?_digits hcs hne hne' hd hd']
      congr 1
      exact Double.ofDecimal_exact false hrep (List.length_pos_iff.2 hne') hexact
  | infinite hne hne' hd hd' hoverflow =>
      rw [readDecimal?_digits hcs hne hne' hd hd']
      congr 1
      apply Double.ofDecimal_overflow false (List.length_pos_iff.2 hne')
      rw [limit_eq, Nat.mul_right_comm]
      exact Nat.mul_le_mul_right _ hoverflow

/-- A unit has as many decimal places as it has binary ones. -/
theorem exists_exact (units : Nat) : ∃ whole fraction : List Char,
    whole ≠ [] ∧ fraction ≠ [] ∧ (∀ d ∈ whole, d.isDigit = true) ∧
      (∀ d ∈ fraction, d.isDigit = true) ∧
        ofDigits (whole ++ fraction) * unitsPerOne = units * Nat.pow 10 fraction.length := by
  -- The number of places is a name here, so that nothing counts up to it.
  obtain ⟨places, hplaces⟩ : ∃ places, places = 1074 := ⟨1074, rfl⟩
  have hten : Nat.pow 10 places = Nat.pow 5 places * unitsPerOne := by
    rw [unitsPerOne_eq, ← hplaces, tenPow_eq]
  have hall := isDigit_of_mem_lastDigits places (units * Nat.pow 5 places)
  refine ⟨Text.digits (units * Nat.pow 5 places / Nat.pow 10 places),
    lastDigits places (units * Nat.pow 5 places), Text.digits_ne_nil _, ?_, ?_, hall, ?_⟩
  · rw [← List.length_pos_iff, length_lastDigits]
    omega
  · exact List.all_eq_true.1 (Text.all_isDigit_digits _)
  · rw [ofDigits_append, ofDigits_digits, ofDigits_lastDigits, length_lastDigits,
      Nat.div_add_mod', hten]
    ac_rfl

theorem exists_expansion {d : Double} (h : d.Unsigned) : ∃ cs, Expansion d cs := by
  cases d with
  | nan => exact h.elim
  | infinite negative =>
      obtain rfl : negative = false := h
      refine ⟨Text.digits (twoPow 1024) ++ '.' :: ['0'], .infinite (Text.digits_ne_nil _)
        (by simp) (List.all_eq_true.1 (Text.all_isDigit_digits _)) (by simp) ?_⟩
      rw [ofDigits_append, ofDigits_digits]
      exact Nat.le_add_right _ _
  | finite negative units hrep =>
      obtain rfl : negative = false := h
      obtain ⟨whole, fraction, hne, hne', hd, hd', hexact⟩ := exists_exact units
      exact ⟨_, .finite hrep hne hne' hd hd' hexact⟩

end Number

end TaskQuery
