import TaskQuery.Number.Double
import TaskQuery.Text.Digit
/-!
# The text of a double

A double is written with the fewest digits that read back as itself and, of those, with
the digits nearest to it. Magnitudes from `0.0001` up to `10^16` are written
positionally and keep one decimal place; all others have an exponent of at least two
digits.
-/

namespace TaskQuery.Double

/-- The least `k` with `units * 2^(-1074) < 10^k`, for `units` above zero. -/
def decimalPoint (units : Nat) : Int :=
  if unitsPerOne ≤ units then
    (Text.digits (units / unitsPerOne)).length
  else
    let zeros := (List.range 324).takeWhile (fun j => units * Nat.pow 10 (j + 1) < unitsPerOne)
    (-zeros.length : Int)

/-- The decimal numbers that round to `units`, as bounds on four times the number, with
whether the bounds themselves belong. -/
structure RoundingInterval where
  low : Nat
  high : Nat
  closed : Bool

/-- The interval of all numbers whose nearest double has the magnitude `units`. -/
def roundingInterval (units : Nat) : RoundingInterval :=
  let exponent := units.log2 - 52
  let gap := twoPow exponent
  let below := if units == twoPow (52 + exponent) && exponent != 0 then gap else 2 * gap
  { low := 4 * units - below
    high := 4 * units + 2 * gap
    closed := units / gap % 2 == 0 }

/-- The decimal of `count` digits nearest to the magnitude `units`, counted in steps of its
last digit, if it reads back as `units`; else its other neighbour, if that does. -/
def decimalOf? (units : Nat) (point : Int) (count : Nat) : Option Nat :=
  let up := Nat.pow 10 ((count : Int) - point).toNat
  let step := unitsPerOne * Nat.pow 10 (point - (count : Int)).toNat
  let interval := roundingInterval units
  let readsBack (candidate : Nat) : Bool :=
    let value := 4 * candidate * step
    if interval.closed then interval.low * up ≤ value && value ≤ interval.high * up
    else interval.low * up < value && value < interval.high * up
  let floor := units * up / step
  let nearest := roundHalfEven (units * up) step
  let other := if nearest == floor then floor + 1 else floor
  if readsBack nearest then some nearest
  else if readsBack other then some other
  else none

/-- The shortest digits of a magnitude above zero, and the position of the decimal
point counted from the first of them. -/
def shortestDigits (units : Nat) : List Char × Int :=
  let point := decimalPoint units
  let counts := (List.range 17).map (· + 1)
  match counts.findSome? fun count =>
      (decimalOf? units point count).map fun decimal => (count, decimal) with
  | some (count, decimal) =>
      let ds := Text.digits decimal
      let trimmed := (ds.reverse.dropWhile (· == '0')).reverse
      (trimmed, point + (ds.length : Int) - (count : Int))
  | none => (['0'], 1)

def exponentText (exponent : Int) : List Char :=
  let ds := Text.digits exponent.natAbs
  'e' :: (if exponent < 0 then '-' else '+') :: (if ds.length < 2 then '0' :: ds else ds)

def layout (ds : List Char) (point : Int) : List Char :=
  if -4 < point && point ≤ 16 then
    if point ≤ 0 then
      '0' :: '.' :: List.replicate (-point).toNat '0' ++ ds
    else
      let whole := point.toNat
      if ds.length ≤ whole then
        ds ++ List.replicate (whole - ds.length) '0' ++ ['.', '0']
      else
        ds.take whole ++ '.' :: ds.drop whole
  else
    match ds with
    | [d] => d :: exponentText (point - 1)
    | d :: rest => d :: '.' :: rest ++ exponentText (point - 1)
    | [] => []

def toText : Double → String
  | .nan => "NaN"
  | .infinite true => "-Infinity"
  | .infinite false => "Infinity"
  | .finite negative units _ =>
      let magnitude :=
        if units = 0 then ['0', '.', '0']
        else
          let (ds, point) := shortestDigits units
          layout ds point
      String.ofList (if negative then '-' :: magnitude else magnitude)

end TaskQuery.Double
