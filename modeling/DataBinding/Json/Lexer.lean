import DataBinding.Json.Numeral
import DataBinding.Value.Basic

namespace DataBinding.Json

/-!
# Parts of JSON documents

A document is read character by character into marks and scalars.  Reading fails
at once on a character that no part can take.
-/

/-- A bracket, comma or colon, or a value without parts. -/
inductive Part where
  | mark (c : Char)
  | scalar (value : Value)
  deriving Repr

/-- What is expected inside a string: a character, one after a backslash, the
digits of a code unit, or the second half of a surrogate pair. -/
inductive StringMode where
  | plain
  | escape
  | unit (digits value : Nat) (high : Option Nat)
  | lowEscape (high : Nat)
  | lowUnit (high : Nat)
  deriving Repr, DecidableEq

/-- The part under way. -/
inductive Mode where
  | idle
  | numeral (text : String)
  | name (text : String)
  | string (text : String) (mode : StringMode)
  deriving Repr, DecidableEq

/-- What a character after a backslash stands for. -/
def unescape? : Char → Option Char
  | '"' => some '"'
  | '\\' => some '\\'
  | '/' => some '/'
  | 'b' => some '\x08'
  | 'f' => some '\x0c'
  | 'n' => some '\n'
  | 'r' => some '\r'
  | 't' => some '\t'
  | _ => none

/-- The value of a digit to base sixteen. -/
def hexValue? (c : Char) : Option Nat :=
  if '0' ≤ c ∧ c ≤ '9' then
    some (c.toNat - '0'.toNat)
  else if 'a' ≤ c ∧ c ≤ 'f' then
    some (c.toNat - 'a'.toNat + 10)
  else if 'A' ≤ c ∧ c ≤ 'F' then
    some (c.toNat - 'A'.toNat + 10)
  else
    none

/-- The first halves of surrogate pairs. -/
def isHighSurrogate (unit : Nat) : Bool :=
  0xD800 ≤ unit && unit ≤ 0xDBFF

/-- The second halves of surrogate pairs. -/
def isLowSurrogate (unit : Nat) : Bool :=
  0xDC00 ≤ unit && unit ≤ 0xDFFF

/-- The scalar that a name stands for. -/
def named? : String → Option Value
  | "null" => some .null
  | "true" => some (.bool true)
  | "false" => some (.bool false)
  | _ => none

/-- Goes on in a string when a code unit is complete. -/
def endUnit
    (text : String)
    (unit : Nat) :
    Option Nat → Option Mode
  | some high =>
      if isLowSurrogate unit then
        let codePoint := 0x10000 + (high - 0xD800) * 0x400 + (unit - 0xDC00)
        some (.string (text.push (Char.ofNat codePoint)) .plain)
      else
        none
  | none =>
      if isHighSurrogate unit then
        some (.string text (.lowEscape unit))
      else if isLowSurrogate unit then
        none
      else
        some (.string (text.push (Char.ofNat unit)) .plain)

/-- Reads a character inside a string: what is under way after it, and the
string, if the character ends it. -/
def readInString
    (text : String)
    (mode : StringMode)
    (c : Char) : Option (List Part × Mode) :=
  match mode with
  | .plain =>
      if c = '"' then
        some ([.scalar (.string text)], .idle)
      else if c = '\\' then
        some ([], .string text .escape)
      else if c.toNat < 0x20 then
        none
      else
        some ([], .string (text.push c) .plain)
  | .escape =>
      if c = 'u' then
        some ([], .string text (.unit 0 0 none))
      else
        (unescape? c).map fun escaped => ([], .string (text.push escaped) .plain)
  | .unit digits value high =>
      (hexValue? c).bind fun digit =>
        let next := value * 16 + digit
        if digits = 3 then
          (endUnit text next high).map fun mode => ([], mode)
        else
          some ([], .string text (.unit (digits + 1) next high))
  | .lowEscape high =>
      if c = '\\' then
        some ([], .string text (.lowUnit high))
      else
        none
  | .lowUnit high =>
      if c = 'u' then
        some ([], .string text (.unit 0 0 (some high)))
      else
        none

/-- The characters that numerals are made of. -/
def isNumeralChar (c : Char) : Bool :=
  c.isDigit || c == '-' || c == '+' || c == '.' || c == 'e' || c == 'E'

/-- The blanks of a document. -/
def isSpace (c : Char) : Bool :=
  c == ' ' || c == '\t' || c == '\n' || c == '\r'

/-- The characters that are parts of their own. -/
def isMark (c : Char) : Bool :=
  c == '[' || c == ']' || c == '\x7b' || c == '\x7d' || c == ':' || c == ','

namespace Mode

/-- Reads a character at which no part is under way. -/
def begin (c : Char) : Option (List Part × Mode) :=
  if isSpace c then
    some ([], idle)
  else if isMark c then
    some ([.mark c], idle)
  else if c = '"' then
    some ([], string "" .plain)
  else if c = '-' || c.isDigit then
    some ([], numeral (String.singleton c))
  else if c.isAlpha then
    some ([], name (String.singleton c))
  else
    none

/-- The part under way, when it ends. -/
def ended
    (number : Numeral → Option Number) :
    Mode → Option (List Part)
  | idle => some []
  | numeral text =>
      ((Numeral.read? text.toList).bind number).map fun value => [.scalar (.number value)]
  | name text => (named? text).map fun value => [.scalar value]
  | string _ _ => none

/-- Ends the part under way and reads a character afresh. -/
def restart
    (number : Numeral → Option Number)
    (mode : Mode)
    (c : Char) : Option (List Part × Mode) :=
  (mode.ended number).bind fun parts =>
    (begin c).map fun begun => (parts ++ begun.1, begun.2)

/-- Reads one character: the parts that are complete with it, and what is under
way after it. -/
def read
    (number : Numeral → Option Number)
    (mode : Mode)
    (c : Char) : Option (List Part × Mode) :=
  match mode with
  | idle => begin c
  | numeral text =>
      if isNumeralChar c then
        some ([], numeral (text.push c))
      else
        mode.restart number c
  | name text =>
      if c.isAlpha then
        some ([], name (text.push c))
      else
        mode.restart number c
  | string text stringMode => readInString text stringMode c

/-- Reads characters to the end of the document. -/
def readAll
    (number : Numeral → Option Number)
    (mode : Mode) :
    List Char → Option (List Part)
  | [] => mode.ended number
  | c :: rest =>
      (mode.read number c).bind fun step =>
        (readAll number step.2 rest).map fun parts => step.1 ++ parts

end Mode

/-- The parts of a document, its numerals read by a given rule. -/
def parts?
    (number : Numeral → Option Number)
    (document : String) : Option (List Part) :=
  Mode.idle.readAll number document.toList

end DataBinding.Json
