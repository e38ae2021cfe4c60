/-!
# Digits

The characters with a decimal digit value, in every script. Each script holds its
ten digits in a row, so the table lists the zeros. Hexadecimal digits are ASCII.
-/

namespace TaskQuery.Text

def zeroDigits : List Nat := [
  0x30, 0x660, 0x6F0, 0x7C0, 0x966, 0x9E6, 0xA66, 0xAE6, 0xB66, 0xBE6,
  0xC66, 0xCE6, 0xD66, 0xDE6, 0xE50, 0xED0, 0xF20, 0x1040, 0x1090, 0x17E0,
  0x1810, 0x1946, 0x19D0, 0x1A80, 0x1A90, 0x1B50, 0x1BB0, 0x1C40, 0x1C50, 0xA620,
  0xA8D0, 0xA900, 0xA9D0, 0xA9F0, 0xAA50, 0xABF0, 0xFF10, 0x104A0, 0x10D30, 0x11066,
  0x110F0, 0x11136, 0x111D0, 0x112F0, 0x11450, 0x114D0, 0x11650, 0x116C0, 0x11730, 0x118E0,
  0x11950, 0x11C50, 0x11D50, 0x11DA0, 0x16A60, 0x16AC0, 0x16B50, 0x1D7CE, 0x1D7D8, 0x1D7E2,
  0x1D7EC, 0x1D7F6, 0x1E140, 0x1E2F0, 0x1E950, 0x1FBF0]

def digitValue? (c : Char) : Option Nat :=
  let n := c.toNat
  if n < 0x80 then
    if 0x30 ≤ n && n ≤ 0x39 then some (n - 0x30) else none
  else
    (zeroDigits.find? fun z => z ≤ n && n < z + 10).map fun z => n - z

theorem digitValue?_lt {c : Char} {d : Nat} (h : digitValue? c = some d) : d < 10 := by
  unfold digitValue? at h
  simp only at h
  split at h
  · split at h
    · rename_i hc
      simp only [Bool.and_eq_true, decide_eq_true_eq] at hc
      simp only [Option.some.injEq] at h
      omega
    · simp at h
  · obtain ⟨z, hz, rfl⟩ := Option.map_eq_some_iff.1 h
    have := List.find?_some hz
    simp only [Bool.and_eq_true, decide_eq_true_eq] at this
    omega

def hexValue? (c : Char) : Option Nat :=
  if c.isDigit then some (c.toNat - 0x30)
  else if 'a' ≤ c ∧ c ≤ 'f' then some (c.toNat - 0x57)
  else if 'A' ≤ c ∧ c ≤ 'F' then some (c.toNat - 0x37)
  else none

def digitChar (d : Nat) : Char :=
  Char.ofNat (0x30 + d % 10)

def digitsBefore (rest : List Char) (n : Nat) : List Char :=
  if n < 10 then digitChar n :: rest else digitsBefore (digitChar n :: rest) (n / 10)

/-- The decimal digits of a number, most significant first; zero is one digit. -/
def digits (n : Nat) : List Char :=
  digitsBefore [] n

def ofInt : Int → String
  | .ofNat n => String.ofList (digits n)
  | .negSucc n => String.ofList ('-' :: digits (n + 1))

def numberOfDigits (ds : List Nat) : Nat :=
  ds.foldl (fun n d => 10 * n + d) 0

theorem digitsBefore_eq (rest : List Char) (n : Nat) :
    digitsBefore rest n = digits n ++ rest := by
  unfold digits
  induction n using Nat.strongRecOn generalizing rest with
  | ind n ih =>
      rw [digitsBefore.eq_def rest n, digitsBefore.eq_def [] n]
      split
      · rfl
      · rename_i h
        rw [ih (n / 10) (by omega) (digitChar n :: rest), ih (n / 10) (by omega) [digitChar n]]
        simp

theorem digitChar_toNat {d : Nat} (h : d < 10) : (digitChar d).toNat = 0x30 + d := by
  have all : ∀ d < 10, (digitChar d).toNat = 0x30 + d := by decide
  exact all d h

theorem digitChar_mod (d : Nat) : digitChar (d % 10) = digitChar d := by
  rw [digitChar, digitChar, Nat.mod_mod]

theorem isDigit_digitChar (d : Nat) : (digitChar d).isDigit = true := by
  have all : ∀ d < 10, (digitChar d).isDigit = true := by decide
  rw [← digitChar_mod]
  exact all _ (Nat.mod_lt d (by omega))

theorem digits_of_lt {n : Nat} (h : n < 10) : digits n = [digitChar n] := by
  rw [digits, digitsBefore, if_pos h]

theorem digits_of_ge {n : Nat} (h : 10 ≤ n) :
    digits n = digits (n / 10) ++ [digitChar n] := by
  rw [digits, digitsBefore, if_neg (by omega), digitsBefore_eq]

theorem all_isDigit_digits (n : Nat) : (digits n).all Char.isDigit = true := by
  induction n using Nat.strongRecOn with
  | ind n ih =>
      rcases Nat.lt_or_ge n 10 with h | h
      · simp [digits_of_lt h, isDigit_digitChar]
      · rw [digits_of_ge h, List.all_append, ih (n / 10) (by omega)]
        simp [isDigit_digitChar]

end TaskQuery.Text
