import TaskQuery.Proofs.Json.Scalars
import TaskQuery.Proofs.Number.Numeral
/-!
# Halves of pairs

An escape may write half a pair of code units with nothing to complete it. No character is such a
half, and the reader puts the replacement character in its place. In a text without one, strings
have exactly the code points that are written.
-/

namespace TaskQuery.Json

variable {cs ds es content : List Char} {units : List (Option Nat)} {n m : Nat}

/-- The code units of the escapes in a text; a character that is no such escape has none. -/
def escapedUnits : List Char → List (Option Nat)
  | [] => []
  | '\\' :: 'u' :: p :: q :: r :: s :: rest => hexNumber? [p, q, r, s] :: escapedUnits rest
  | '\\' :: _ :: rest => none :: escapedUnits rest
  | _ :: rest => none :: escapedUnits rest

def hasLone : List (Option Nat) → Bool
  | [] => false
  | none :: rest => hasLone rest
  | [some n] => isHighHalf n || isLowHalf n
  | some n :: none :: rest => isHighHalf n || isLowHalf n || hasLone rest
  | some n :: some m :: rest =>
      if isHighHalf n && isLowHalf m then hasLone rest
      else isHighHalf n || isLowHalf n || hasLone (some m :: rest)

/-- Whether half a pair stands alone among the escapes of a text. -/
def HasLoneHalf (cs : List Char) : Prop :=
  hasLone (escapedUnits cs) = true

instance : DecidablePred HasLoneHalf :=
  fun _ => inferInstanceAs (Decidable (_ = _))

/-- The code points that a text between quotes spells. Two halves of a pair are one code point,
and half a pair that stands alone is one by itself. -/
inductive SpellsPoints : List Nat → List Char → Prop where
  | nil : SpellsPoints [] []
  | plain {c : Char} {points : List Nat} {cs : List Char} (visible : 0x20 ≤ c.toNat)
      (quote : c ≠ '"') (backslash : c ≠ '\\') (rest : SpellsPoints points cs) :
      SpellsPoints (c.toNat :: points) (c :: cs)
  | short {mark c : Char} {points : List Nat} {cs : List Char}
      (escape : simpleEscape? mark = some c) (rest : SpellsPoints points cs) :
      SpellsPoints (c.toNat :: points) ('\\' :: mark :: cs)
  | unit {n : Nat} {points : List Nat} {ds cs : List Char} (unit : IsUnit ds n)
      (alone : isHighHalf n = true → ∀ es low after, IsUnit es low →
        cs = '\\' :: 'u' :: (es ++ after) → isLowHalf low = false)
      (rest : SpellsPoints points cs) :
      SpellsPoints (n :: points) ('\\' :: 'u' :: (ds ++ cs))
  | pair {high low : Nat} {points : List Nat} {ds es cs : List Char} (first : IsUnit ds high)
      (second : IsUnit es low) (halves : isHighHalf high = true ∧ isLowHalf low = true)
      (rest : SpellsPoints points cs) :
      SpellsPoints ((0x10000 + (high - 0xD800) * 0x400 + (low - 0xDC00)) :: points)
        ('\\' :: 'u' :: (ds ++ '\\' :: 'u' :: (es ++ cs)))

/-! ## Code units -/

theorem isHighHalf_iff : isHighHalf n = true ↔ 0xD800 ≤ n ∧ n ≤ 0xDBFF := by
  simp [isHighHalf]

theorem isLowHalf_iff : isLowHalf n = true ↔ 0xDC00 ≤ n ∧ n ≤ 0xDFFF := by
  simp [isLowHalf]

theorem toNat_ofNat (h : n.isValidChar) : (Char.ofNat n).toNat = n := by
  rw [Char.ofNat, dif_pos h]
  rfl

theorem hexValue?_lt {c : Char} (h : Text.hexValue? c = some n) : n < 16 := by
  unfold Text.hexValue? at h
  split at h
  · rename_i hdigit
    have hlast := (Number.toNat_of_isDigit hdigit).2
    obtain rfl := Option.some.inj h
    omega
  · split at h
    · rename_i hsmall
      have hlast : c.toNat ≤ 0x66 := hsmall.2
      obtain rfl := Option.some.inj h
      omega
    · split at h
      · rename_i hcapital
        have hlast : c.toNat ≤ 0x46 := hcapital.2
        obtain rfl := Option.some.inj h
        omega
      · cases h

theorem IsUnit.lt (unit : IsUnit ds n) : n < 0x10000 := by
  cases unit with
  | digits first second third fourth =>
      have hp := hexValue?_lt first
      have hq := hexValue?_lt second
      have hr := hexValue?_lt third
      have hs := hexValue?_lt fourth
      omega

theorem IsUnit.isValidChar (unit : IsUnit ds n)
    (whole : isHighHalf n = false ∧ isLowHalf n = false) : n.isValidChar := by
  have hlt := unit.lt
  have hhigh := mt isHighHalf_iff.2 (Bool.eq_false_iff.1 whole.1)
  have hlow := mt isLowHalf_iff.2 (Bool.eq_false_iff.1 whole.2)
  rw [Nat.isValidChar]
  omega

theorem toNat_pairChar (halves : isHighHalf n = true ∧ isLowHalf m = true) :
    (pairChar n m).toNat = 0x10000 + (n - 0xD800) * 0x400 + (m - 0xDC00) := by
  have hhigh := isHighHalf_iff.1 halves.1
  have hlow := isLowHalf_iff.1 halves.2
  refine toNat_ofNat ?_
  rw [Nat.isValidChar]
  omega

theorem isUnit_of_hexNumber? {p q r s : Char} (h : hexNumber? [p, q, r, s] = some n) :
    IsUnit [p, q, r, s] n := by
  unfold hexNumber? at h
  split at h
  · rename_i a b c d hread
    obtain rfl := Option.some.inj h
    simp only [List.take, List.mapM_cons, List.mapM_nil, Option.pure_def, Option.bind_eq_bind,
      Option.bind_eq_some_iff, Option.some.injEq, List.cons.injEq] at hread
    obtain ⟨_, hp, _, ⟨_, hq, _, ⟨_, hr, _, ⟨_, hs, _, rfl, rfl⟩, rfl⟩, rfl⟩, hvalues⟩ := hread
    obtain ⟨rfl, rfl, rfl, rfl, -⟩ := hvalues
    exact .digits hp hq hr hs
  · cases h

/-! ## The escapes of a text -/

theorem escapedUnits_unit (unit : IsUnit ds n) (cs : List Char) :
    escapedUnits ('\\' :: 'u' :: (ds ++ cs)) = some n :: escapedUnits cs := by
  have hread := hexNumber?_unit unit []
  cases unit with
  | digits first second third fourth => exact congrArg (· :: escapedUnits cs) hread

theorem escapedUnits_short {mark : Char} (h : mark ≠ 'u') (cs : List Char) :
    escapedUnits ('\\' :: mark :: cs) = none :: escapedUnits cs := by
  rw [escapedUnits]
  exact fun _ _ _ _ _ hmark _ => h hmark

theorem escapedUnits_plain {c : Char} (h : c ≠ '\\') (cs : List Char) :
    escapedUnits (c :: cs) = none :: escapedUnits cs := by
  rw [escapedUnits]
  · exact fun _ _ _ _ _ hc _ => h hc
  · exact fun _ _ hc _ => h hc

theorem unit_of_escapedUnits (h : escapedUnits cs = some m :: units) :
    ∃ es after, IsUnit es m ∧ cs = '\\' :: 'u' :: (es ++ after) := by
  unfold escapedUnits at h
  split at h
  · cases h
  · obtain ⟨hread, -⟩ := List.cons.inj h
    exact ⟨_, _, isUnit_of_hexNumber? hread, rfl⟩
  · exact absurd (List.cons.inj h).1 nofun
  · exact absurd (List.cons.inj h).1 nofun

/-- Where no half stands alone, a code unit in front is no half, or the next one completes it. -/
theorem cases_of_hasLone (h : hasLone (some n :: units) = false) :
    (isHighHalf n = false ∧ isLowHalf n = false ∧ hasLone units = false) ∨
      ∃ m rest, units = some m :: rest ∧ isHighHalf n = true ∧ isLowHalf m = true ∧
        hasLone rest = false := by
  match units with
  | [] =>
      obtain ⟨hhigh, hlow⟩ := Bool.or_eq_false_iff.1 h
      exact .inl ⟨hhigh, hlow, rfl⟩
  | none :: rest =>
      obtain ⟨hhalf, hrest⟩ := Bool.or_eq_false_iff.1 h
      obtain ⟨hhigh, hlow⟩ := Bool.or_eq_false_iff.1 hhalf
      exact .inl ⟨hhigh, hlow, hrest⟩
  | some m :: rest =>
      rw [hasLone] at h
      split at h
      · rename_i hpair
        obtain ⟨hhigh, hlow⟩ := Bool.and_eq_true_iff.1 hpair
        exact .inr ⟨m, rest, rfl, hhigh, hlow, h⟩
      · obtain ⟨hhalf, hrest⟩ := Bool.or_eq_false_iff.1 h
        obtain ⟨hhigh, hlow⟩ := Bool.or_eq_false_iff.1 hhalf
        exact .inl ⟨hhigh, hlow, hrest⟩

/-- In a text without a half that stands alone the characters between quotes are the code points
that are written. -/
theorem SpellsChars.points (h : SpellsChars content cs) (whole : ¬ HasLoneHalf cs) :
    SpellsPoints (content.map Char.toNat) cs := by
  rw [HasLoneHalf, Bool.not_eq_true] at whole
  induction h with
  | nil => exact .nil
  | plain visible quote backslash rest ih =>
      rw [escapedUnits_plain backslash] at whole
      exact .plain visible quote backslash (ih whole)
  | @short mark c content cs escape rest ih =>
      have hmark : mark ≠ 'u' := by
        rintro rfl
        rw [simpleEscape?_unit] at escape
        cases escape
      rw [escapedUnits_short hmark] at whole
      exact .short escape (ih whole)
  | @unit n ds content cs unit alone rest ih =>
      rw [escapedUnits_unit unit] at whole
      rw [List.map_cons, toNat_ofNat (unit.isValidChar alone)]
      rcases cases_of_hasLone whole with ⟨-, -, hrest⟩ | ⟨m, others, -, hhigh, -, -⟩
      · exact .unit unit (fun hhigh => absurd hhigh (by rw [alone.1]; simp)) (ih hrest)
      · exact absurd hhigh (by rw [alone.1]; simp)
  | @pair high low ds es content cs first second halves rest ih =>
      rw [escapedUnits_unit first, escapedUnits_unit second] at whole
      rw [List.map_cons, toNat_pairChar halves]
      rcases cases_of_hasLone whole with ⟨hhigh, -, -⟩ | ⟨m, others, hnext, -, -, hrest⟩
      · exact absurd halves.1 (by rw [hhigh]; simp)
      · rw [(List.cons.inj hnext).2] at ih
        exact .pair first second halves (ih hrest)
  | @half n ds content cs unit half alone rest ih =>
      rw [escapedUnits_unit unit] at whole
      exfalso
      rcases cases_of_hasLone whole with ⟨hhigh, hlow, -⟩ | ⟨m, others, hnext, hhigh, hlow, -⟩
      · rw [hhigh, hlow] at half
        simp at half
      · obtain ⟨es, after, second, heq⟩ := unit_of_escapedUnits hnext
        exact Bool.false_ne_true ((alone hhigh es m after second heq).symm.trans hlow)

-- A blank keeps the halves of a pair apart.
example : HasLoneHalf "[\"\\ud83d \\ude00\"]".toList := by decide

example : ¬ HasLoneHalf "[\"\\ud83d\\ude00\"]".toList := by decide

end TaskQuery.Json
