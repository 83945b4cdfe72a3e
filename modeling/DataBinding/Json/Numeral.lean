import DataBinding.Number.Decimal

namespace DataBinding.Json

/-!
# Numerals of JSON documents

A numeral is a minus sign or none, whole digits without a leading zero, a
fraction and an exponent.  A document is read in two steps, each of which
rounds: the digits that fit a word of 64 bits are the significand, and that is
multiplied or divided by a power of ten.  What leaves the range of the format
has no value.
-/

/-- The parts of a numeral. -/
structure Numeral where
  negative : Bool
  whole : List Char
  fraction : List Char
  exponent : Int
  deriving Repr, DecidableEq

namespace Numeral

/-- Whether whole digits are a zero or begin with another digit. -/
def isWhole (digits : List Char) : Bool :=
  match digits with
  | [] => false
  | '0' :: rest => rest.isEmpty
  | _ => true

/-- Reads a whole text as a numeral. -/
def read? (text : List Char) : Option Numeral :=
  let (negative, unsigned) :=
    match text with
    | '-' :: rest => (true, rest)
    | text => (false, text)
  let (whole, afterWhole) := takeDigits unsigned
  let (fraction, afterFraction) := Decimal.takeFraction afterWhole
  if isWhole whole && (afterWhole.head? != some '.' || !fraction.isEmpty) then
    (Decimal.readExponent? afterFraction).map fun exponent =>
      { negative, whole, fraction, exponent }
  else
    none

/-- The number next to a numeral, if that is finite. -/
def nearest? (numeral : Numeral) : Option Number :=
  let decimal : Decimal :=
    { negative := numeral.negative
      significand := Nat.ofDigitChars 10 (numeral.whole ++ numeral.fraction) 0
      exponent := numeral.exponent - numeral.fraction.length }
  some decimal.toNumber |>.filter Number.isFinite

/-- Takes the digits that fit a word of 64 bits after a significand: the new
significand and how many digits it has taken. -/
def takeFitting
    (significand : Nat) :
    List Char → Nat × Nat
  | [] => (significand, 0)
  | c :: rest =>
      let next := significand * 10 + (c.toNat - '0'.toNat)
      if next < Nat.pow 2 64 then
        let (taken, count) := takeFitting next rest
        (taken, count + 1)
      else
        (significand, 0)

/-- The units of the power of ten next to the true one. -/
def powerUnits (power : Nat) : Nat :=
  roundedUnits (Nat.pow 10 power * unitsPerOne) 1

/-- Units divided by the largest power of ten of the format a number of times. -/
def shrinkFully : Nat → Nat → Nat
  | 0, units => units
  | times + 1, units =>
      if units = 0 then
        0
      else
        shrinkFully times (roundedUnits (units * unitsPerOne) (powerUnits 308))

/-- Units divided by a power of ten, `10 ^ 308` at a time. -/
def shrink
    (units power : Nat) : Nat :=
  let times := (power - 1) / 308
  roundedUnits (shrinkFully times units * unitsPerOne) (powerUnits (power - 308 * times))

/-- A significand times a power of ten, rounded at each step. -/
def scaled?
    (negative : Bool)
    (significand : Nat)
    (exponent : Int) : Option Number :=
  let units := roundedUnits (significand * unitsPerOne) 1
  match exponent with
  | .ofNat power =>
      if units = 0 then
        some (.zero negative)
      else if 308 < power then
        none
      else
        some (.ofRatio negative (units * powerUnits power) (unitsPerOne * unitsPerOne))
          |>.filter Number.isFinite
  | .negSucc power => some (.ofUnits negative (shrink units (power + 1)))

/-- The number that a numeral of a document stands for. -/
def value? (numeral : Numeral) : Option Number :=
  let (whole, taken) := takeFitting 0 numeral.whole
  let dropped := numeral.whole.length - taken
  let (significand, places) := takeFitting whole numeral.fraction
  scaled? numeral.negative significand (dropped - places + numeral.exponent)

end Numeral

end DataBinding.Json
