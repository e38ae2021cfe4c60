import TaskQuery.Number.Shortest
import TaskQuery.Proofs.Json.Grammar
import TaskQuery.Proofs.Number.Expansion
/-!
# Numbers in a document

The texts of integers and of finite doubles are numbers of JSON: their first digit is a zero
only if it stands alone in front of the point.
-/

namespace TaskQuery.Json

variable {c : Char} {ds rest : List Char} {n units count decimal : Nat} {point : Int}

/-! ## Digits -/

theorem digitChar_ne_zero (h : n < 10) (hpos : 0 < n) : Text.digitChar n ≠ '0' := by
  have all : ∀ d < 10, 0 < d → Text.digitChar d ≠ '0' := by decide
  exact all n h hpos

theorem isDigit_of_mem_digits (n : Nat) : ∀ d ∈ Text.digits n, d.isDigit = true :=
  List.all_eq_true.1 (Text.all_isDigit_digits n)

theorem digits_eq_cons (h : 0 < n) : ∃ c ds, Text.digits n = c :: ds ∧ c ≠ '0' := by
  induction n using Nat.strongRecOn with
  | ind n ih =>
      rcases Nat.lt_or_ge n 10 with hlt | hge
      · exact ⟨_, [], Text.digits_of_lt hlt, digitChar_ne_zero hlt h⟩
      · obtain ⟨c, ds, hds, hc⟩ := ih (n / 10) (by omega) (by omega)
        exact ⟨c, ds ++ [Text.digitChar n], by rw [Text.digits_of_ge hge, hds]; rfl, hc⟩

theorem isWhole_digits (n : Nat) : IsWhole (Text.digits n) := by
  rcases Nat.eq_zero_or_pos n with rfl | hpos
  · rw [Text.digits_of_lt (by omega)]
    exact .zero
  · obtain ⟨c, ds, hds, hc⟩ := digits_eq_cons hpos
    have hdigits := isDigit_of_mem_digits n
    rw [hds, List.forall_mem_cons] at hdigits
    rw [hds]
    exact .digits hdigits.1 hc hdigits.2

theorem isMagnitude_whole (h : IsWhole ds) : IsMagnitude ds := by
  have hparts := IsMagnitude.parts h .absent .absent
  rwa [List.append_nil, List.append_nil] at hparts

theorem isNumber_ofInt (n : Int) : IsNumber (Text.ofInt n).toList := by
  cases n with
  | ofNat n =>
      rw [Text.ofInt, String.toList_ofList]
      exact .unsigned (isMagnitude_whole (isWhole_digits n))
  | negSucc n =>
      rw [Text.ofInt, String.toList_ofList]
      exact .negative (isMagnitude_whole (isWhole_digits (n + 1)))

/-! ## The shortest digits -/

/-- Digits of which the first is no zero. -/
def Leads (ds : List Char) : Prop :=
  ∃ c rest, ds = c :: rest ∧ c ≠ '0' ∧ ∀ d ∈ ds, d.isDigit = true

theorem roundingInterval_low_pos (h : units ≠ 0) : 0 < (Double.roundingInterval units).low := by
  have hgap : twoPow (units.log2 - 52) ≤ units :=
    (twoPow_le (Nat.sub_le _ _)).trans (twoPow_log2_le h)
  unfold Double.roundingInterval
  dsimp only
  split
  · omega
  · omega

theorem of_first_or_other {p : Nat → Bool} {a b d : Nat}
    (h : (if p a then some a else if p b then some b else none) = some d) : p d = true := by
  split at h
  · rename_i ha
    rwa [← Option.some.inj h]
  · split at h
    · rename_i hb
      rwa [← Option.some.inj h]
    · cases h

-- These powers are for the kernel only: nothing below may write them out.
attribute [local irreducible] twoPow unitsPerOne

/-- A decimal that reads back is not below the interval. -/
theorem low_le_decimal (hd : Double.decimalOf? units point count = some decimal) :
    (Double.roundingInterval units).low * Nat.pow 10 ((count : Int) - point).toNat ≤
      4 * decimal * (unitsPerOne * Nat.pow 10 (point - (count : Int)).toNat) := by
  let interval := Double.roundingInterval units
  let up := Nat.pow 10 ((count : Int) - point).toNat
  let step := unitsPerOne * Nat.pow 10 (point - (count : Int)).toNat
  have hreads := of_first_or_other
    (p := fun candidate =>
      if interval.closed then
        interval.low * up ≤ 4 * candidate * step && 4 * candidate * step ≤ interval.high * up
      else interval.low * up < 4 * candidate * step && 4 * candidate * step < interval.high * up)
    hd
  split at hreads
  · exact of_decide_eq_true (Bool.and_eq_true_iff.1 hreads).1
  · exact Nat.le_of_lt (of_decide_eq_true (Bool.and_eq_true_iff.1 hreads).1)

theorem decimal_pos (h : units ≠ 0) (hd : Double.decimalOf? units point count = some decimal) :
    0 < decimal := by
  have hlow := Nat.mul_pos (roundingInterval_low_pos h) (tenPow_pos ((count : Int) - point).toNat)
  have hle := low_le_decimal hd
  rw [Nat.pos_iff_ne_zero]
  rintro rfl
  rw [Nat.mul_zero, Nat.zero_mul] at hle
  omega

/-- The zeros at the end are dropped, not what leads. -/
theorem reverse_dropWhile_cons (hc : c ≠ '0') (ds : List Char) :
    ((c :: ds).reverse.dropWhile (· == '0')).reverse =
      c :: (ds.reverse.dropWhile (· == '0')).reverse := by
  have hstop : [c].dropWhile (· == '0') = [c] :=
    List.dropWhile_cons_of_neg (by simpa using hc)
  rw [List.reverse_cons, List.dropWhile_append, hstop]
  split
  · rename_i hzeros
    rw [List.isEmpty_iff.1 hzeros]
    rfl
  · rw [List.reverse_append]
    rfl

theorem leads_trimmed (h : 0 < n) :
    Leads ((Text.digits n).reverse.dropWhile (· == '0')).reverse := by
  obtain ⟨c, ds, hds, hc⟩ := digits_eq_cons h
  have hdigits := isDigit_of_mem_digits n
  rw [hds] at hdigits ⊢
  refine ⟨c, _, reverse_dropWhile_cons hc ds, hc, fun d hd => hdigits d ?_⟩
  exact List.mem_reverse.1 ((List.dropWhile_suffix _).subset (List.mem_reverse.1 hd))

/-- The shortest digits of a magnitude lead, but for a magnitude that no seventeen digits
give back. -/
theorem shortestDigits_leads (h : units ≠ 0) :
    Leads (Double.shortestDigits units).1 ∨ Double.shortestDigits units = (['0'], 1) := by
  unfold Double.shortestDigits
  dsimp only
  split
  · rename_i count decimal hfound
    obtain ⟨_, hin, hdecimal⟩ := List.exists_of_findSome?_eq_some hfound
    obtain ⟨_, hd, hpair⟩ := Option.map_eq_some_iff.1 hdecimal
    cases hpair
    exact .inl (leads_trimmed (decimal_pos h hd))
  · exact .inr rfl

/-! ## The layout -/

theorem isExponent_exponentText (e : Int) : IsExponent (Double.exponentText e) := by
  have hdigits := isDigit_of_mem_digits e.natAbs
  have hne : Text.digits e.natAbs ≠ [] := by
    rcases Nat.eq_zero_or_pos e.natAbs with hzero | hpos
    · rw [hzero, Text.digits_of_lt (by omega)]
      exact List.cons_ne_nil _ _
    · obtain ⟨c, ds, hds, -⟩ := digits_eq_cons hpos
      rw [hds]
      exact List.cons_ne_nil _ _
  unfold Double.exponentText
  dsimp only
  have hpadded : IsDigits (if (Text.digits e.natAbs).length < 2 then '0' :: Text.digits e.natAbs
      else Text.digits e.natAbs) := by
    split
    · exact ⟨List.cons_ne_nil _ _, List.forall_mem_cons.2 ⟨by decide, hdigits⟩⟩
    · exact ⟨hne, hdigits⟩
  split
  · exact @IsExponent.present 'e' ['-'] _ (.inl rfl) (.inr (.inr rfl)) hpadded
  · exact @IsExponent.present 'e' ['+'] _ (.inl rfl) (.inr (.inl rfl)) hpadded

theorem isDigit_of_mem_replicate (k : Nat) :
    ∀ d ∈ List.replicate k '0', d.isDigit = true := by
  intro d hd
  rw [List.eq_of_mem_replicate hd]
  decide

theorem isMagnitude_layout (h : Leads ds) (point : Int) :
    IsMagnitude (Double.layout ds point) := by
  obtain ⟨c, rest, rfl, hc, hdigits⟩ := h
  obtain ⟨hfirst, hrest⟩ := List.forall_mem_cons.1 hdigits
  unfold Double.layout
  split
  · split
    · have hfraction : IsDigits (List.replicate (-point).toNat '0' ++ c :: rest) :=
        ⟨by simp, List.forall_mem_append.2 ⟨isDigit_of_mem_replicate _, hdigits⟩⟩
      have hparts := IsMagnitude.parts .zero (.present hfraction) .absent
      rwa [List.append_nil] at hparts
    · dsimp only
      split
      · have hwhole := IsWhole.digits hfirst hc
          (List.forall_mem_append.2 ⟨hrest, isDigit_of_mem_replicate
            (point.toNat - (c :: rest).length)⟩)
        have hfraction : IsFraction ['.', '0'] :=
          .present ⟨List.cons_ne_nil _ _, List.forall_mem_singleton.2 rfl⟩
        have hparts := IsMagnitude.parts hwhole hfraction .absent
        rwa [List.append_nil] at hparts
      · rename_i hshort
        obtain ⟨k, hk⟩ : ∃ k, point.toNat = k + 1 := ⟨point.toNat - 1, by omega⟩
        rw [hk, List.take_succ_cons, List.drop_succ_cons]
        rw [hk, List.length_cons] at hshort
        have hwhole : IsWhole (c :: rest.take k) :=
          .digits hfirst hc fun d hd => hrest d (List.mem_of_mem_take hd)
        have hfraction : IsDigits (rest.drop k) :=
          ⟨List.ne_nil_of_length_pos (by rw [List.length_drop]; omega),
            fun d hd => hrest d (List.mem_of_mem_drop hd)⟩
        have hparts := IsMagnitude.parts hwhole (.present hfraction) .absent
        rwa [List.append_nil] at hparts
  · have hwhole : IsWhole [c] := .digits hfirst hc fun _ hd => absurd hd List.not_mem_nil
    have hexponent := isExponent_exponentText (point - 1)
    cases rest with
    | nil => exact .parts hwhole .absent hexponent
    | cons d rest =>
        have hfraction : IsFraction ('.' :: d :: rest) :=
          .present ⟨List.cons_ne_nil _ _, hrest⟩
        exact .parts hwhole hfraction hexponent

theorem isMagnitude_zero : IsMagnitude ['0', '.', '0'] :=
  @IsMagnitude.parts ['0'] ['.', '0'] [] .zero
    (.present ⟨List.cons_ne_nil _ _, List.forall_mem_singleton.2 rfl⟩) .absent

/-- The text of a finite double is a number. -/
theorem isNumber_toText {d : Double} (h : d.isFinite = true) : IsNumber d.toText.toList := by
  cases d with
  | nan => cases h
  | infinite negative => cases h
  | finite negative units representable =>
      have hmagnitude : IsMagnitude (if units = 0 then ['0', '.', '0'] else
          Double.layout (Double.shortestDigits units).1 (Double.shortestDigits units).2) := by
        split
        · exact isMagnitude_zero
        · rename_i hne
          rcases shortestDigits_leads hne with hleads | hfallback
          · exact isMagnitude_layout hleads _
          · rw [hfallback]
            exact isMagnitude_zero
      rw [Double.toText, String.toList_ofList]
      cases negative with
      | false => exact .unsigned hmagnitude
      | true => exact .negative hmagnitude

end TaskQuery.Json
