import DataBinding.Number.Decimal

namespace DataBinding

/-!
# The shortest decimal that reads back

For one digit, two digits and so on, the two neighbours of a magnitude among
the decimals with that many digits are tried.  The first count of digits with a
neighbour that reads back to the magnitude wins, and of two such neighbours the
nearer.  Seventeen digits always suffice; the exact decimal stands behind them,
so that the result reads back by construction.
-/

/-- Which of two equally near decimals is taken. -/
inductive Halfway where
  | upward
  | toEven
  deriving Repr, DecidableEq

namespace Magnitude

/-- The power of ten of the first significant digit. -/
def leadingPower (magnitude : Magnitude) : Int :=
  let scaled := magnitude.units * Nat.pow 10 324 / unitsPerOne
  ((Nat.toDigits 10 scaled).length : Int) - 325

/-- The magnitude in steps of a power of ten, as a quotient. -/
def inSteps
    (magnitude : Magnitude)
    (power : Int) : Nat × Nat :=
  match power with
  | .ofNat power => (magnitude.units, unitsPerOne * Nat.pow 10 power)
  | .negSucc power => (magnitude.units * Nat.pow 10 (power + 1), unitsPerOne)

/-- Whether a decimal reads back to the magnitude. -/
def isReadBy
    (magnitude : Magnitude)
    (decimal : Decimal) : Bool :=
  decimal.toNumber = .finite decimal.negative magnitude

/-- The nearer of the two neighbours in steps of a power of ten that read back. -/
def neighbour?
    (halfway : Halfway)
    (magnitude : Magnitude)
    (power : Int) : Option Decimal :=
  let (numerator, denominator) := magnitude.inSteps power
  let below := numerator / denominator
  let left := numerator % denominator
  let lower : Decimal := ⟨false, below, power⟩
  let upper : Decimal := ⟨false, below + 1, power⟩
  match magnitude.isReadBy lower, magnitude.isReadBy upper with
  | false, false => none
  | true, false => some lower
  | false, true => some upper
  | true, true =>
      if 2 * left < denominator then
        some lower
      else if denominator < 2 * left then
        some upper
      else
        match halfway with
        | .upward => some upper
        | .toEven => some (if below % 2 = 0 then lower else upper)

/-- The exact decimal value. -/
def exactDecimal (magnitude : Magnitude) : Decimal where
  negative :=
    false
  significand :=
    magnitude.units * Nat.pow 5 1074
  exponent :=
    -1074

/-- The shortest decimal that reads back to the magnitude. -/
def shortest
    (halfway : Halfway)
    (magnitude : Magnitude) : Decimal :=
  let leading := magnitude.leadingPower
  ((List.range 17).findSome? fun (digits : Nat) =>
    magnitude.neighbour? halfway (leading - digits)).getD magnitude.exactDecimal

end Magnitude

/-- The significant digits of a decimal, the last of them not zero, and the
power of ten of the first. -/
def Decimal.scientific (decimal : Decimal) : List Char × Int :=
  let digits := Nat.toDigits 10 decimal.significand
  let significant := (digits.reverse.dropWhile (· == '0')).reverse
  (significant, decimal.exponent + digits.length - 1)

end DataBinding
