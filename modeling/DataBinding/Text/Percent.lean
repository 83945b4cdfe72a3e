import DataBinding.Text.Utf8

namespace DataBinding.Text

/-!
# Percent encoding

In an encoded component of a link every byte stands as a percent sign and two
digits, but for those of the characters that have no meaning in links.
-/

/-- Whether a byte stands for itself in an encoded component. -/
def isUnreserved
    (byte : UInt8) : Bool :=
  let c := Char.ofNat byte.toNat
  byte.toNat < 0x80 &&
    (c.isAlphanum || ['-', '_', '.', '!', '~', '*', '\'', '(', ')'].contains c)

/-- A digit to base sixteen, in capital letters. -/
def capitalHexDigit
    (digit : Nat) : Char :=
  (Nat.digitChar (digit % 16)).toUpper

/-- The form of a byte in an encoded component. -/
def percentByte
    (byte : UInt8) : List Char :=
  if isUnreserved byte then
    [Char.ofNat byte.toNat]
  else
    ['%', capitalHexDigit (byte.toNat / 16), capitalHexDigit byte.toNat]

/-- The characters of an encoded component. -/
def percentEncode
    (text : List Char) : List Char :=
  (utf8 text).flatMap percentByte

end DataBinding.Text
