import TaskQuery.Number.Double
import TaskQuery.Text.Blank
import TaskQuery.Text.Digit
/-!
# Reading numbers

The texts that are numbers. An integer is a sign and digits, a decimal may also have a
point and an exponent. Digits of any script count, single underscores may stand between
digits, and white space may surround the number. Integers longer than a limit of digits
are refused, and an integer longer than that is not turned into a text either.
-/

namespace TaskQuery.Number

/-- The most digits an integer literal may have, leading zeros included, and the most that an
integer may have that is turned into a text. -/
def digitLimit : Nat := 4300

/-- Whether an integer can be turned into a text. The sign does not count. -/
def isShowable (n : Int) : Bool :=
  n.natAbs < Nat.pow 10 digitLimit

/-- The characters of a number: digits of every script become ASCII ones. -/
def plainChar (c : Char) : Char :=
  match Text.digitValue? c with
  | some d => Text.digitChar d
  | none => c

def withoutUnderscores? (previous : Char) : List Char → Option (List Char)
  | [] => if previous == '_' then none else some []
  | c :: rest =>
      if c == '_' then
        if previous.isDigit then withoutUnderscores? c rest else none
      else if previous == '_' && !c.isDigit then none
      else (withoutUnderscores? c rest).map (c :: ·)

def cleaned? (text : String) : Option (List Char) :=
  withoutUnderscores? ' ' ((Text.trimBy Text.isSpace text.toList).map plainChar)

def splitSign : List Char → Bool × List Char
  | '-' :: rest => (true, rest)
  | '+' :: rest => (false, rest)
  | rest => (false, rest)

def ofDigits (ds : List Char) : Nat :=
  Text.numberOfDigits (ds.map fun d => d.toNat - 0x30)

theorem ofDigits_append_digit (ds : List Char) (d : Nat) :
    ofDigits (ds ++ [Text.digitChar d]) = 10 * ofDigits ds + d % 10 := by
  have h := Text.digitChar_toNat (Nat.mod_lt d (by omega : 0 < 10))
  rw [Text.digitChar_mod] at h
  rw [ofDigits, Text.numberOfDigits, List.map_append, List.foldl_append]
  simp [h, ofDigits, Text.numberOfDigits]

theorem ofDigits_digits (n : Nat) : ofDigits (Text.digits n) = n := by
  induction n using Nat.strongRecOn with
  | ind n ih =>
      rcases Nat.lt_or_ge n 10 with h | h
      · have single := ofDigits_append_digit [] n
        rw [List.nil_append, Nat.mod_eq_of_lt h] at single
        rw [Text.digits_of_lt h, single]
        exact Nat.zero_add n
      · rw [Text.digits_of_ge h, ofDigits_append_digit, ih (n / 10) (by omega)]
        exact Nat.div_add_mod n 10

def readInt? (limit : Nat) (text : String) : Option Int := do
  let (negative, ds) := splitSign (← cleaned? text)
  if ds.isEmpty || !ds.all Char.isDigit || limit < ds.length then
    none
  else
    let n : Int := ofDigits ds
    some (if negative then -n else n)

def readExponent? : List Char → Option Int
  | [] => some 0
  | mark :: rest =>
      let (negative, ds) := splitSign rest
      if (mark == 'e' || mark == 'E') && !ds.isEmpty && ds.all Char.isDigit then
        let n : Int := ofDigits ds
        some (if negative then -n else n)
      else
        none

def splitDecimal (cs : List Char) : List Char × List Char × List Char :=
  let whole := cs.takeWhile Char.isDigit
  match cs.dropWhile Char.isDigit with
  | '.' :: rest => (whole, rest.takeWhile Char.isDigit, rest.dropWhile Char.isDigit)
  | rest => (whole, [], rest)

def readDecimal? (text : String) : Option Double := do
  let (negative, cs) := splitSign (← cleaned? text)
  let (whole, fraction, rest) := splitDecimal cs
  if whole.isEmpty && fraction.isEmpty then
    none
  else
    let exponent ← readExponent? rest
    some (Double.ofDecimal negative (ofDigits (whole ++ fraction)) (exponent - fraction.length))

end TaskQuery.Number
