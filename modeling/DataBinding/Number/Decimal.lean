import DataBinding.Number.Basic
import DataBinding.Text.Blank

namespace DataBinding

/-!
# Decimal numerals

A numeral is a sign, a whole significand and a power of ten.  Reading one takes
an optional sign, digits with at most one point and a digit on at least one side
of it, and an optional exponent.  The value of a numeral is the number of the
format next to it.
-/

/-- The exact decimal `significand * 10 ^ exponent` with a sign. -/
structure Decimal where
  negative : Bool
  significand : Nat
  exponent : Int
  deriving Repr, DecidableEq

/-- Splits characters into the digits in front and the rest. -/
def takeDigits
    (text : List Char) : List Char × List Char :=
  (text.takeWhile Char.isDigit, text.dropWhile Char.isDigit)

/-- Whether there is a sign in front that says minus, and what follows it. -/
def takeSign : List Char → Bool × List Char
  | '-' :: rest => (true, rest)
  | '+' :: rest => (false, rest)
  | text => (false, text)

namespace Decimal

/-- The exponent that stands at the end of a numeral, zero if there is none. -/
def readExponent? : List Char → Option Int
  | [] => some 0
  | c :: rest =>
      if c = 'e' ∨ c = 'E' then
        let (negative, digits) := takeSign rest
        if digits ≠ [] ∧ digits.all Char.isDigit then
          let size : Int := Nat.ofDigitChars 10 digits 0
          some (if negative then -size else size)
        else
          none
      else
        none

/-- The digits after a point, if there is a point, and what follows them. -/
def takeFraction : List Char → List Char × List Char
  | '.' :: rest => takeDigits rest
  | text => ([], text)

/-- Reads a whole text as a numeral. -/
def read? (text : List Char) : Option Decimal :=
  let (negative, unsigned) := takeSign text
  let (whole, afterWhole) := takeDigits unsigned
  let (fraction, afterFraction) := takeFraction afterWhole
  if whole = [] ∧ fraction = [] then
    none
  else
    (readExponent? afterFraction).map fun exponent =>
      { negative := negative
        significand := Nat.ofDigitChars 10 (whole ++ fraction) 0
        exponent := exponent - fraction.length }

/-- The number next to a numeral.  The two outer tests answer at once where the
power of ten alone decides: beyond `10 ^ 310` all is infinite, and below a
quarter of a unit all is zero. -/
def toNumber (decimal : Decimal) : Number :=
  if decimal.significand = 0 then
    .zero decimal.negative
  else
    match decimal.exponent with
    | .ofNat power =>
        if 310 ≤ power then
          .infinite decimal.negative
        else
          .ofRatio decimal.negative (decimal.significand * Nat.pow 10 power) 1
    | .negSucc power =>
        if decimal.significand.log2 + 1101 < 3 * power then
          .zero decimal.negative
        else
          .ofRatio decimal.negative decimal.significand (Nat.pow 10 (power + 1))

end Decimal

namespace Number

/-- The names of numbers that have no digits, in small letters. -/
def ofName? (name : String) : Option Number :=
  if name = "inf" ∨ name = "infinity" then
    some (infinite false)
  else if name = "nan" then
    some nan
  else
    none

/-- A number with its sign turned round. -/
def opposite : Number → Number
  | nan => nan
  | infinite negative => infinite (!negative)
  | finite negative magnitude => finite (!negative) magnitude

/-- Reads a numeral, or the name of NaN or infinity in any case with an optional
sign. -/
def ofText? (text : String) : Option Number :=
  match Decimal.read? text.toList with
  | some decimal => some decimal.toNumber
  | none =>
      let (negative, name) := takeSign text.toList
      (ofName? (String.ofList (name.map Char.toLower))).map fun number =>
        if negative then number.opposite else number

/-- Reads a finite number, whatever blanks stand around it. -/
def parse? (text : String) : Option Number :=
  (ofText? (Text.trim text)).filter isFinite

end Number

end DataBinding
