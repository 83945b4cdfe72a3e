namespace DataBinding

/-!
# Numbers of double precision

A finite number is a sign and a whole count of units of `2 ^ -1074`, the
smallest positive number of the format.  The counts that the format holds have
at most 53 significant binary digits and lie below `2 ^ 2098`.  Comparison is
then comparison of integers, and rounding is rounding of a quotient of natural
numbers.
-/

/-- The count of units that one is made of. -/
def unitsPerOne : Nat :=
  Nat.pow 2 1074

/-- The first power of two whose count of units is too large for the format. -/
def unitsBound : Nat :=
  Nat.pow 2 2098

theorem unitsPerOne_pos : 0 < unitsPerOne :=
  Nat.two_pow_pos 1074

theorem unitsBound_pos : 0 < unitsBound :=
  Nat.two_pow_pos 2098

/-- Whether a count of units is one that the format holds. -/
def Representable (units : Nat) : Prop :=
  units < unitsBound ∧ Nat.pow 2 (units.log2 - 52) ∣ units

instance : DecidablePred Representable :=
  fun _ => inferInstanceAs (Decidable (_ ∧ _))

/-- The absolute value of a finite number. -/
structure Magnitude where
  units : Nat
  representable : Representable units
  deriving Repr, DecidableEq

/-- A number of the format, with signed zeros, infinities and one NaN. -/
inductive Number where
  | nan
  | infinite (negative : Bool)
  | finite (negative : Bool) (magnitude : Magnitude)
  deriving Repr, DecidableEq

/-- The whole number next to a quotient; a half goes to the even neighbour. -/
def roundHalfEven
    (numerator denominator : Nat) : Nat :=
  let whole := numerator / denominator
  let left := numerator % denominator
  if 2 * left < denominator then
    whole
  else if denominator < 2 * left then
    whole + 1
  else
    whole + whole % 2

/-- The count of units next to a quotient of counts among those with at most 53
significant digits. -/
def roundedUnits
    (numerator denominator : Nat) : Nat :=
  let step := Nat.pow 2 ((numerator / denominator).log2 - 52)
  roundHalfEven numerator (denominator * step) * step

namespace Magnitude

/-- No units at all. -/
def zero : Magnitude where
  units := 0
  representable := by
    exact ⟨unitsBound_pos, Nat.dvd_zero _⟩

/-- The magnitude with some count of units, if the format holds it. -/
def ofUnits? (units : Nat) : Option Magnitude :=
  if representable : Representable units then
    some ⟨units, representable⟩
  else
    none

/-- Whether there is nothing after the binary point. -/
def isIntegral (magnitude : Magnitude) : Bool :=
  magnitude.units % unitsPerOne == 0

/-- The whole part. -/
def wholePart (magnitude : Magnitude) : Nat :=
  magnitude.units / unitsPerOne

end Magnitude

namespace Number

/-- Zero with a sign. -/
def zero (negative : Bool) : Number :=
  finite negative Magnitude.zero

/-- The number with a count of units, infinite if the count is too large. -/
def ofUnits
    (negative : Bool)
    (units : Nat) : Number :=
  match Magnitude.ofUnits? units with
  | some magnitude => finite negative magnitude
  | none => infinite negative

/-- The number next to a quotient; a half goes to the even neighbour, and what
rounds beyond the largest finite number is infinite. -/
def ofRatio
    (negative : Bool)
    (numerator denominator : Nat) : Number :=
  ofUnits negative (roundedUnits (numerator * unitsPerOne) denominator)

/-- The number next to a natural number. -/
def ofNat (value : Nat) : Number :=
  ofRatio false value 1

/-- A finite number as an integer count of units.  The two zeros have the same
count. -/
def signedUnits
    (negative : Bool)
    (magnitude : Magnitude) : Int :=
  if negative then
    -(magnitude.units : Int)
  else
    magnitude.units

/-- Where a number stands on the line, infinities beyond all finite numbers.
NaN has no place. -/
def position? : Number → Option Int
  | nan => none
  | infinite true => some (-(unitsBound : Int))
  | infinite false => some unitsBound
  | finite negative magnitude => some (signedUnits negative magnitude)

/-- Numerical equality: the two zeros are equal and NaN equals nothing. -/
def equal
    (left right : Number) : Bool :=
  match left.position?, right.position? with
  | some left, some right => left == right
  | _, _ => false

/-- Numerical order.  NaN is unordered. -/
def compare?
    (left right : Number) : Option Ordering :=
  match left.position?, right.position? with
  | some left, some right => some (compare left right)
  | _, _ => none

/-- Whether the number is one of the two zeros. -/
def isZero : Number → Bool
  | finite _ magnitude => magnitude.units == 0
  | _ => false

/-- Whether the number is neither NaN nor infinite. -/
def isFinite : Number → Bool
  | finite _ _ => true
  | _ => false

end Number

end DataBinding
