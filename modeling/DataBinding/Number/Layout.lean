import DataBinding.Number.Shortest

namespace DataBinding

/-!
# Texts of numbers

Two layouts write a number: the plain one, which never uses an exponent, and
the one of JSON documents, which does so for very large and very small numbers.
Both start from the shortest digits that read back.  Text that people see is
written by `Number.display`, where small whole numbers are plain integers.
-/

/-- The decisions that a layout makes. -/
structure NumberLayout where
  /-- Which of two equally near shortest decimals is written. -/
  halfway : Halfway
  /-- The powers of ten of the first digit that are written without exponent. -/
  positional : Int → Bool
  /-- What follows a whole number that is written without exponent. -/
  wholeEnd : String
  /-- The text of a positive zero. -/
  zero : String
  /-- The texts of NaN, infinity and negative infinity. -/
  notANumber : String
  positiveInfinity : String
  negativeInfinity : String

namespace NumberLayout

/-- Digits without an exponent in full, no point in whole numbers, and names for
what has no digits. -/
def plain : NumberLayout where
  halfway := .upward
  positional := fun _ => true
  wholeEnd := ""
  zero := "0"
  notANumber := "NaN"
  positiveInfinity := "inf"
  negativeInfinity := "-inf"

/-- A point in every number without exponent, an exponent outside `-5 .. 15`,
and null for what has no digits. -/
def json : NumberLayout where
  halfway := .toEven
  positional := fun power => -5 ≤ power && power ≤ 15
  wholeEnd := ".0"
  zero := "0.0"
  notANumber := "null"
  positiveInfinity := "null"
  negativeInfinity := "null"

/-- Digits whose first has a given power of ten, written without exponent. -/
def positionalText
    (layout : NumberLayout)
    (digits : List Char)
    (power : Int) : String :=
  match power with
  | .negSucc zeros =>
      "0." ++ String.ofList (List.replicate zeros '0' ++ digits)
  | .ofNat power =>
      if digits.length ≤ power + 1 then
        String.ofList (digits ++ List.replicate (power + 1 - digits.length) '0') ++
          layout.wholeEnd
      else
        String.ofList (digits.take (power + 1)) ++ "." ++
          String.ofList (digits.drop (power + 1))

/-- Digits whose first has a given power of ten, written with an exponent. -/
def exponentText
    (digits : List Char)
    (power : Int) : String :=
  let significand :=
    match digits with
    | first :: second :: rest => String.ofList (first :: '.' :: second :: rest)
    | few => String.ofList few
  significand ++ "e" ++ (if power < 0 then "-" else "+") ++ Nat.repr power.natAbs

/-- The text of a magnitude that is not zero. -/
def magnitudeText
    (layout : NumberLayout)
    (magnitude : Magnitude) : String :=
  let (digits, power) := (magnitude.shortest layout.halfway).scientific
  if layout.positional power then
    layout.positionalText digits power
  else
    exponentText digits power

/-- The text of a number. -/
def text
    (layout : NumberLayout) :
    Number → String
  | .nan => layout.notANumber
  | .infinite false => layout.positiveInfinity
  | .infinite true => layout.negativeInfinity
  | .finite negative magnitude =>
      (if negative then "-" else "") ++
        (if magnitude.units = 0 then layout.zero else layout.magnitudeText magnitude)

end NumberLayout

namespace Number

/-- The integer that a number is shown as: whole numbers with a magnitude below
`9 * 10 ^ 15` are, and zero then has no sign. -/
def integer? : Number → Option Int
  | finite negative magnitude =>
      if magnitude.isIntegral && magnitude.wholePart < 9 * Nat.pow 10 15 then
        some (if negative then -(magnitude.wholePart : Int) else magnitude.wholePart)
      else
        none
  | _ => none

/-- The text of an integer: a minus sign if it is negative, then its digits. -/
def integerText : Int → String
  | .ofNat value => Nat.repr value
  | .negSucc value => "-" ++ Nat.repr (value + 1)

/-- The text of a number in rendered output. -/
def display (number : Number) : String :=
  match number.integer? with
  | some value => integerText value
  | none => NumberLayout.plain.text number

end Number

end DataBinding
