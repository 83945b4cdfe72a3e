import DataBinding.Instruction.Lexeme
import DataBinding.Value.Basic

namespace DataBinding

/-!
# Tokens of an instruction

Tokens form trees: a block holds the tokens between its brackets.  The text of
a token is written so that the lexer reads it back as the same token.
-/

/-- A token and its place.  A `name` is a variable, a keyword or a parameter, and
a `separator` is a comma inside a block. -/
inductive Token where
  | name (text : String) (span : Span)
  | quotation (quote : Quote) (text : String) (span : Span)
  | number (value : Number) (span : Span)
  | operator (text : String) (span : Span)
  | block (bracket : Bracket) (tokens : List Token) (span : Span)
  | separator (span : Span)
  deriving Repr

namespace Token

/-- The place of a token. -/
def span : Token → Span
  | name _ span => span
  | quotation _ _ span => span
  | number _ span => span
  | operator _ span => span
  | block _ _ span => span
  | separator span => span

/-- The name of the kind of a token in messages. -/
def kindName : Token → String
  | name _ _ => "generic"
  | quotation _ _ _ => "text"
  | number _ _ => "text"
  | operator _ _ => "operator"
  | block _ _ _ => "block"
  | separator _ => "separator"

/-- The text of an operator. -/
def operator? : Token → Option String
  | operator text _ => some text
  | _ => none

/-- Whether a token is a comma inside a block. -/
def isSeparator : Token → Bool
  | separator _ => true
  | _ => false

/-- The tokens that stand for a value: names, texts and blocks. -/
def isOperand : Token → Bool
  | name _ _ => true
  | quotation _ _ _ => true
  | number _ _ => true
  | block _ _ _ => true
  | operator _ _ => false
  | separator _ => false

/-- A character of a word, escaped where it would end the word. -/
def wordChar (c : Char) : List Char :=
  if Lexeme.isSpecial c then ['\\', c] else [c]

/-- A character of a quotation, escaped where it would end the quotation. -/
def quotedChar
    (quote : Quote)
    (c : Char) : List Char :=
  if c = quote.mark ∨ c = '\\' then ['\\', c] else [c]

mutual

/-- The characters of a token. -/
def chars : Token → List Char
  | name text _ => text.toList.flatMap wordChar
  | quotation quote text _ =>
      quote.mark :: text.toList.flatMap (quotedChar quote) ++ [quote.mark]
  | number value _ => value.display.toList
  | operator text _ => text.toList
  | block bracket tokens _ => bracket.opening :: sequenceChars tokens ++ [bracket.closing]
  | separator _ => [',']

/-- The characters of tokens in sequence. -/
def sequenceChars : List Token → List Char
  | [] => []
  | token :: rest => chars token ++ followingChars rest

/-- The characters of tokens that follow another: each but a separator has a
blank in front. -/
def followingChars : List Token → List Char
  | [] => []
  | token :: rest =>
      (if token.isSeparator then [] else [' ']) ++ chars token ++ followingChars rest

end

/-- The text of a token. -/
def text (token : Token) : String :=
  String.ofList token.chars

/-- The description of a token in messages. -/
def describe (token : Token) : String :=
  token.kindName ++ " '" ++ token.text ++ "'"

end Token

end DataBinding
