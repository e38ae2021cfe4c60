/-!
# Double-precision numbers

A finite double is a whole number of units of `2^(-1074)` with at most 53 significant
bits, so order and equality with integers of any size are exact integer comparisons.
`Double.ofRatio` rounds a quotient to the nearest double, ties to the even one.
-/

namespace TaskQuery

def twoPow (n : Nat) : Nat :=
  Nat.pow 2 n

theorem twoPow_pos (n : Nat) : 0 < twoPow n :=
  Nat.two_pow_pos n

/-- The units of `2^(-1074)` in the number one. -/
def unitsPerOne : Nat :=
  twoPow 1074

theorem unitsPerOne_pos : 0 < unitsPerOne :=
  twoPow_pos 1074

/-- Magnitudes in units of `2^(-1074)` that a double can hold: below `2^1024`, and with
no more than 53 significant bits. -/
def Representable (units : Nat) : Prop :=
  units < twoPow 2098 ∧ units % twoPow (units.log2 - 52) = 0

instance (units : Nat) : Decidable (Representable units) :=
  inferInstanceAs (Decidable (_ ∧ _))

/-- A double-precision number. Zero keeps its sign. -/
inductive Double where
  | nan
  | infinite (negative : Bool)
  | finite (negative : Bool) (units : Nat) (representable : Representable units)
  deriving DecidableEq

/-- A point of the number line with both infinities, in units of `2^(-1074)`. -/
inductive Extended where
  | bottom
  | units (n : Int)
  | top
  deriving DecidableEq

namespace Extended

def lt : Extended → Extended → Bool
  | .units a, .units b => a < b
  | .bottom, .bottom => false
  | .bottom, _ => true
  | _, .bottom => false
  | .top, _ => false
  | _, .top => true

def le (a b : Extended) : Bool :=
  a == b || lt a b

def ofInt (n : Int) : Extended :=
  .units (n * unitsPerOne)

theorem lt_irrefl (a : Extended) : lt a a = false := by
  cases a <;> simp [lt]

theorem lt_trans {a b c : Extended} (h : lt a b = true) (k : lt b c = true) :
    lt a c = true := by
  cases a <;> cases b <;> cases c <;> simp_all [lt]
  omega

theorem ofInt_inj {a b : Int} : ofInt a = ofInt b ↔ a = b := by
  have h : (unitsPerOne : Int) ≠ 0 := Int.natCast_ne_zero.2 (Nat.ne_of_gt unitsPerOne_pos)
  rw [ofInt, ofInt, units.injEq]
  exact Int.mul_eq_mul_right_iff h

end Extended

/-- A quotient rounded to the nearest whole number, a half to the even neighbour. -/
def roundHalfEven (num den : Nat) : Nat :=
  let quotient := num / den
  let rest := num % den
  if 2 * rest < den || (2 * rest == den && quotient % 2 == 0) then quotient
  else quotient + 1

namespace Double

/-- The double of a magnitude, infinite if no finite one holds it. -/
def ofUnits (negative : Bool) (units : Nat) : Double :=
  if h : Representable units then .finite negative units h else .infinite negative

def ofRatio (negative : Bool) (num den : Nat) : Double :=
  let scaled := num * unitsPerOne
  let gap := twoPow ((scaled / den).log2 - 52)
  ofUnits negative (roundHalfEven scaled (den * gap) * gap)

/-- The double nearest to `mantissa * 10 ^ exponent`. Magnitudes far outside the range
of doubles are settled by their size alone. -/
def ofDecimal (negative : Bool) (mantissa : Nat) (exponent : Int) : Double :=
  if mantissa = 0 then ofUnits negative 0
  else if 310 < (mantissa.log2 * 3 / 10 : Int) + exponent then .infinite negative
  else if (mantissa.log2 / 3 : Int) + 2 + exponent < -330 then ofUnits negative 0
  else if 0 ≤ exponent then ofRatio negative (mantissa * Nat.pow 10 exponent.toNat) 1
  else ofRatio negative mantissa (Nat.pow 10 (-exponent).toNat)

def point? : Double → Option Extended
  | .nan => none
  | .infinite true => some .bottom
  | .infinite false => some .top
  | .finite true units _ => some (.units (-(units : Int)))
  | .finite false units _ => some (.units units)

def isFinite : Double → Bool
  | .finite _ _ _ => true
  | _ => false

def toInt? : Double → Option Int
  | .finite negative units _ =>
      if units % unitsPerOne = 0 then
        let n : Int := (units / unitsPerOne : Nat)
        some (if negative then -n else n)
      else
        none
  | _ => none

def signBit (negative : Bool) : Nat :=
  if negative then 0x8000000000000000 else 0

/-- The 64 bits of the interchange format; not-a-number has a quiet pattern. -/
def toBits : Double → Nat
  | .nan => 0x7FF8000000000000
  | .infinite negative => signBit negative + 0x7FF0000000000000
  | .finite negative units _ =>
      let exponent := units.log2 - 52
      let magnitude :=
        if units < 0x10000000000000 then units
        else exponent * 0x10000000000000 + units / twoPow exponent
      signBit negative + magnitude

end Double

end TaskQuery
