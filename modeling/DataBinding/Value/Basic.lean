import DataBinding.Fields
import DataBinding.Number.Layout

namespace DataBinding

/-!
# Values of the data

The values that instructions are evaluated to.  Truth follows one rule: null,
zero, NaN, the empty string, a string that reads as zero, an empty array and an
object without fields are false, and everything else is true.
-/

/-- A value from the data or made by an instruction. -/
inductive Value where
  | null
  | bool (value : Bool)
  | number (value : Number)
  | string (value : String)
  | array (items : List Value)
  | object (fields : List (String × Value))
  deriving Repr, Inhabited

namespace Value

/-- The name of the kind of a value. -/
def kindName : Value → String
  | null => "null"
  | bool _ => "boolean"
  | number _ => "number"
  | string _ => "string"
  | array _ => "array"
  | object _ => "object"

/-- Whether a value is null. -/
def isNull : Value → Bool
  | null => true
  | _ => false

/-- The text of a string. -/
def string? : Value → Option String
  | string text => some text
  | _ => none

/-- The fields of an object. -/
def fields? : Value → Option (List (String × Value))
  | object fields => some fields
  | _ => none

/-- Whether a string is neither empty nor a numeral of zero. -/
def isTruthyText (text : String) : Bool :=
  !text.isEmpty &&
    match Number.parse? text with
    | some value => !value.isZero
    | none => true

/-- The truth of a value. -/
def isTruthy : Value → Bool
  | null => false
  | bool value => value
  | number value => !value.isZero && value != .nan
  | string text => isTruthyText text
  | array items => !items.isEmpty
  | object fields => !fields.isEmpty

/-- The number of things in a collection. -/
def size (count : Nat) : Value :=
  number (.ofNat count)

/-- The value as a scalar: collections become their sizes, and strings that read
as numbers become those. -/
def toScalar : Value → Value
  | array items => size items.length
  | object fields => size fields.length
  | string text =>
      match Number.parse? text with
      | some value => number value
      | none => string text
  | scalar => scalar

/-- The value under a count of negations.  Without any it is itself, and null
stays null. -/
def negate
    (count : Nat)
    (value : Value) : Value :=
  if count = 0 ∨ value.isNull then
    value
  else
    bool (value.isTruthy ^^ decide (count % 2 = 1))

mutual

/-- Equality of values, numerical at the numbers. -/
def equal : Value → Value → Bool
  | null, null => true
  | bool left, bool right => left == right
  | number left, number right => left.equal right
  | string left, string right => left == right
  | array left, array right => equalItems left right
  | object left, object right => equalFields left right
  | _, _ => false

/-- Equality of the items of arrays, one by one. -/
def equalItems : List Value → List Value → Bool
  | [], [] => true
  | left :: lefts, right :: rights => equal left right && equalItems lefts rights
  | _, _ => false

/-- Equality of the fields of objects, names and values one by one. -/
def equalFields :
    List (String × Value) → List (String × Value) → Bool
  | [], [] => true
  | (leftName, left) :: lefts, (rightName, right) :: rights =>
      leftName == rightName && equal left right && equalFields lefts rights
  | _, _ => false

end

/-- The order of two values.  Numbers, strings and truth values are ordered
among themselves, and nothing else is. -/
def compare? : Value → Value → Option Ordering
  | number left, number right => left.compare? right
  | string left, string right => some (compare left right)
  | bool left, bool right => some (compare left right)
  | _, _ => none

end Value

end DataBinding
