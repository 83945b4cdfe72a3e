import DataBinding.Value.Basic

namespace DataBinding

/-!
# JSON texts of values

The JSON form of a value has no blanks, and its fields stand in the order of
their names, so equal lists of fields have equal texts.  Rendered text shows
arrays and objects in this form and scalars plainly.
-/

namespace Text

/-- The sixteen digits in small letters. -/
def hexDigit (digit : Nat) : Char :=
  Nat.digitChar (digit % 16)

/-- The form of a character inside a JSON string. -/
def jsonChar (c : Char) : List Char :=
  if c = '"' then
    ['\\', '"']
  else if c = '\\' then
    ['\\', '\\']
  else if c = '\x08' then
    ['\\', 'b']
  else if c = '\x0c' then
    ['\\', 'f']
  else if c = '\n' then
    ['\\', 'n']
  else if c = '\r' then
    ['\\', 'r']
  else if c = '\t' then
    ['\\', 't']
  else if c.toNat < 0x20 then
    ['\\', 'u', '0', '0', hexDigit (c.toNat / 16), hexDigit c.toNat]
  else
    [c]

/-- A text as a JSON string. -/
def jsonString (text : String) : String :=
  String.ofList ('"' :: text.toList.flatMap jsonChar ++ ['"'])

end Text

namespace Value

mutual

/-- The JSON text of a value. -/
def json : Value → String
  | null => "null"
  | bool true => "true"
  | bool false => "false"
  | number value => NumberLayout.json.text value
  | string text => Text.jsonString text
  | array items => "[" ++ String.intercalate "," (jsonItems items) ++ "]"
  | object fields => "\x7b" ++ String.intercalate "," (jsonFields fields) ++ "\x7d"

/-- The JSON texts of the items of an array. -/
def jsonItems : List Value → List String
  | [] => []
  | item :: rest => json item :: jsonItems rest

/-- The JSON texts of the fields of an object. -/
def jsonFields : List (String × Value) → List String
  | [] => []
  | (name, value) :: rest =>
      (Text.jsonString name ++ ":" ++ json value) :: jsonFields rest

end

/-- The text of a value in rendered output. -/
def display : Value → String
  | null => "null"
  | bool true => "true"
  | bool false => "false"
  | number value => value.display
  | string text => text
  | array items => json (array items)
  | object fields => json (object fields)

end Value

end DataBinding
