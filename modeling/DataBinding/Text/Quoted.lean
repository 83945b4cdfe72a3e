import DataBinding.Text.Printable

namespace DataBinding.Text

/-!
# Quoted text

A text between double quotes, in which quotes, backslashes and everything that
cannot be shown are escaped.
-/

/-- The form of a character inside quoted text. -/
def quotedForm
    (c : Char) : List Char :=
  if c = '"' then
    ['\\', '"']
  else if c = '\\' then
    ['\\', '\\']
  else if c = '\t' then
    ['\\', 't']
  else if c = '\r' then
    ['\\', 'r']
  else if c = '\n' then
    ['\\', 'n']
  else if c = '\x00' then
    ['\\', '0']
  else if isPrintable c then
    [c]
  else
    ['\\', 'u', '\x7b'] ++ Nat.toDigits 16 c.toNat ++ ['\x7d']

/-- A text between double quotes. -/
def quoted
    (text : String) : String :=
  String.ofList ('"' :: text.toList.flatMap quotedForm ++ ['"'])

end DataBinding.Text
