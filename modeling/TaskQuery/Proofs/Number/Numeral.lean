import Mathlib.Data.List.TakeWhile
import TaskQuery.Number.Literal
/-!
# Numerals

The numbers that a query can write: digits, or digits with a point and more digits. Such a
text needs no cleaning. With a point it is always a double, and without one an integer as
long as it has no more digits than the limit.
-/

namespace TaskQuery.Number

def isNumeral (text : String) : Bool :=
  !(text.toList.takeWhile Char.isDigit).isEmpty &&
    match text.toList.dropWhile Char.isDigit with
    | [] => true
    | c :: fraction => c == '.' && !fraction.isEmpty && fraction.all Char.isDigit

inductive Numeral : List Char → Prop where
  | integer {ds : List Char} (nonempty : ds ≠ []) (digits : ∀ d ∈ ds, d.isDigit = true) :
      Numeral ds
  | decimal {whole fraction : List Char} (nonempty : whole ≠ []) (nonempty' : fraction ≠ [])
      (digits : ∀ d ∈ whole, d.isDigit = true) (digits' : ∀ d ∈ fraction, d.isDigit = true) :
      Numeral (whole ++ '.' :: fraction)

theorem numeral_of_isNumeral {text : String} (h : isNumeral text = true) :
    Numeral text.toList := by
  unfold isNumeral at h
  obtain ⟨hw, hr⟩ := Bool.and_eq_true_iff.1 h
  have hne : text.toList.takeWhile Char.isDigit ≠ [] := by simpa using hw
  have hsplit := List.takeWhile_append_dropWhile (p := Char.isDigit) (l := text.toList)
  rw [← hsplit]
  split at hr
  · rename_i hd
    rw [hd, List.append_nil]
    exact .integer hne fun d hd => List.mem_takeWhile_imp hd
  · rename_i c fraction hd
    simp only [Bool.and_eq_true, beq_iff_eq, Bool.not_eq_true', List.isEmpty_eq_false_iff,
      List.all_eq_true] at hr
    obtain ⟨⟨rfl, hf⟩, ha⟩ := hr
    rw [hd]
    exact .decimal hne hf (fun d hd => List.mem_takeWhile_imp hd) ha

theorem Numeral.ne_nil {cs : List Char} (h : Numeral cs) : cs ≠ [] := by
  cases h with
  | integer nonempty => exact nonempty
  | decimal => simp

/-! ## Cleaning -/

def isNumeralChar (c : Char) : Bool :=
  c.isDigit || c == '.'

theorem Numeral.chars {cs : List Char} (h : Numeral cs) :
    ∀ c ∈ cs, isNumeralChar c = true := by
  cases h with
  | integer _ digits => exact fun c hc => by simp [isNumeralChar, digits c hc]
  | decimal _ _ digits digits' =>
      intro c hc
      rcases List.mem_append.1 hc with hc | hc
      · simp [isNumeralChar, digits c hc]
      · rcases List.mem_cons.1 hc with rfl | hc
        · rfl
        · simp [isNumeralChar, digits' c hc]

theorem toNat_of_isDigit {c : Char} (h : c.isDigit = true) : 0x30 ≤ c.toNat ∧ c.toNat ≤ 0x39 := by
  simp only [Char.isDigit, Bool.and_eq_true, decide_eq_true_eq] at h
  exact ⟨h.1, h.2⟩

theorem isSpace_of_isNumeralChar {c : Char} (h : isNumeralChar c = true) :
    Text.isSpace c = false := by
  rcases Bool.or_eq_true_iff.1 h with h | h
  · have hn := toNat_of_isDigit h
    simp only [Text.isSpace, Bool.or_eq_false_iff, Bool.and_eq_false_iff, decide_eq_false_iff_not,
      beq_eq_false_iff_ne]
    omega
  · obtain rfl := eq_of_beq h
    decide

theorem plainChar_of_isNumeralChar {c : Char} (h : isNumeralChar c = true) : plainChar c = c := by
  rcases Bool.or_eq_true_iff.1 h with h | h
  · obtain ⟨hl, hu⟩ := toNat_of_isDigit h
    have hv : Text.digitValue? c = some (c.toNat - 0x30) := by
      have hr : (decide (0x30 ≤ c.toNat) && decide (c.toNat ≤ 0x39)) = true := by simp [hl, hu]
      rw [Text.digitValue?, if_pos (by omega), if_pos hr]
    rw [plainChar, hv]
    have hd : 0x30 + (c.toNat - 0x30) % 10 = c.toNat := by omega
    simp only [Text.digitChar, hd, Char.ofNat_toNat]
  · obtain rfl := eq_of_beq h
    decide

theorem trimBy_eq_self {p : Char → Bool} {cs : List Char} (h : ∀ c ∈ cs, p c = false) :
    Text.trimBy p cs = cs := by
  have drop : ∀ ds : List Char, (∀ c ∈ ds, p c = false) → ds.dropWhile p = ds := by
    intro ds hds
    cases ds with
    | nil => rfl
    | cons d rest => rw [List.dropWhile_cons, hds d (by simp)]; rfl
  rw [Text.trimBy, drop cs h, drop cs.reverse (by simpa using h), List.reverse_reverse]

theorem withoutUnderscores?_eq_self {cs : List Char} (h : ∀ c ∈ cs, isNumeralChar c = true) :
    ∀ previous, previous ≠ '_' → withoutUnderscores? previous cs = some cs := by
  induction cs with
  | nil => intro previous hp; simp [withoutUnderscores?, hp]
  | cons c rest ih =>
      intro previous hp
      have hc : c ≠ '_' := by
        rintro rfl
        exact absurd (h '_' (by simp)) (by decide)
      simp [withoutUnderscores?, hc, hp, ih (fun d hd => h d (by simp [hd])) c hc]

theorem cleaned?_of_numeral {text : String} (h : Numeral text.toList) :
    cleaned? text = some text.toList := by
  have hchars := h.chars
  rw [cleaned?, trimBy_eq_self fun c hc => isSpace_of_isNumeralChar (hchars c hc),
    List.map_congr_left fun c hc => plainChar_of_isNumeralChar (hchars c hc), List.map_id']
  exact withoutUnderscores?_eq_self hchars ' ' (by decide)

/-! ## Reading -/

theorem splitSign_of_digits {cs : List Char} (h : ∀ c ∈ cs.head?, c.isDigit = true) :
    splitSign cs = (false, cs) := by
  unfold splitSign
  split
  · exact absurd (h '-' rfl) (by decide)
  · exact absurd (h '+' rfl) (by decide)
  · rfl

/-- Digits are an integer exactly if there are not too many. -/
theorem readInt?_digits {limit : Nat} {text : String} (hne : text.toList ≠ [])
    (hd : ∀ d ∈ text.toList, d.isDigit = true) :
    readInt? limit text =
      if text.length ≤ limit then some (ofDigits text.toList : Int) else none := by
  have hs : splitSign text.toList = (false, text.toList) :=
    splitSign_of_digits fun c hc => hd c (List.mem_of_mem_head? hc)
  have hall : text.toList.all Char.isDigit = true := List.all_eq_true.2 hd
  have hemp : text.toList.isEmpty = false := List.isEmpty_eq_false_iff.2 hne
  simp only [readInt?, cleaned?_of_numeral (.integer hne hd), hs, hall, hemp, Option.bind_eq_bind,
    Option.bind_some, String.length_toList]
  by_cases hl : text.length ≤ limit
  · simp [hl, Nat.not_lt.2 hl]
  · simp [hl, Nat.lt_of_not_ge hl]

theorem readDecimal?_digits {text : String} {whole fraction : List Char}
    (htext : text.toList = whole ++ '.' :: fraction) (hne : whole ≠ []) (hne' : fraction ≠ [])
    (hd : ∀ d ∈ whole, d.isDigit = true) (hd' : ∀ d ∈ fraction, d.isDigit = true) :
    readDecimal? text =
      some (Double.ofDecimal false (ofDigits (whole ++ fraction)) (-(fraction.length : Int))) := by
  have hnum : Numeral text.toList := htext ▸ .decimal hne hne' hd hd'
  have hs : splitSign text.toList = (false, whole ++ '.' :: fraction) := by
    rw [htext]
    apply splitSign_of_digits
    cases whole with
    | nil => exact absurd rfl hne
    | cons d rest => simpa using hd d (by simp)
  have htake : (whole ++ '.' :: fraction).takeWhile Char.isDigit = whole := by
    rw [List.takeWhile_append_of_pos hd]
    simp
  have hdrop : (whole ++ '.' :: fraction).dropWhile Char.isDigit = '.' :: fraction := by
    rw [List.dropWhile_append_of_pos hd]
    simp
  have htake' : fraction.takeWhile Char.isDigit = fraction := List.takeWhile_eq_self_iff.2 hd'
  have hdrop' : fraction.dropWhile Char.isDigit = [] := List.dropWhile_eq_nil_iff.2 hd'
  simp [readDecimal?, cleaned?_of_numeral hnum, hs, splitDecimal, htake, hdrop, htake', hdrop',
    hne, readExponent?]

end TaskQuery.Number
