import DataBinding.Text.Span

namespace DataBinding

/-!
# Lexemes of an instruction list

The lexer reads a source one character at a time.  Its memory is a `Lexeme.Mode`:
the lexeme under way, if there is one.  Each character either prolongs that
lexeme or ends it and begins afresh, and the end of the source ends what is
left.  Reading never fails: an open quotation ends with the source, and a
backslash that ends the source has nothing to escape and is left out.
-/

/-- The three pairs of brackets. -/
inductive Bracket where
  | brace
  | square
  | round
  deriving Repr, DecidableEq

namespace Bracket

/-- The character that opens a block. -/
def opening : Bracket → Char
  | brace => '\x7b'
  | square => '['
  | round => '('

/-- The character that closes a block. -/
def closing : Bracket → Char
  | brace => '\x7d'
  | square => ']'
  | round => ')'

/-- The pair that a character opens. -/
def ofOpening? (c : Char) : Option Bracket :=
  [brace, square, round].find? fun bracket => bracket.opening == c

/-- The pair that a character closes. -/
def ofClosing? (c : Char) : Option Bracket :=
  [brace, square, round].find? fun bracket => bracket.closing == c

end Bracket

/-- The two quotation marks. -/
inductive Quote where
  | double
  | single
  deriving Repr, DecidableEq

namespace Quote

/-- The character that opens and closes a quotation. -/
def mark : Quote → Char
  | double => '"'
  | single => '\''

/-- The quotation that a character opens. -/
def ofMark? (c : Char) : Option Quote :=
  [double, single].find? fun quote => quote.mark == c

end Quote

/-- The smallest parts of an instruction list.  The texts of quotations and
words are without their escapes. -/
inductive Lexeme where
  | opening (bracket : Bracket)
  | closing (bracket : Bracket)
  | comma
  | operator (text : String)
  | quotation (quote : Quote) (text : String)
  | word (text : String)
  deriving Repr, DecidableEq

namespace Lexeme

/-- The characters that are skipped between lexemes. -/
def isGap (c : Char) : Bool :=
  c == ' ' || c == '\t' || c == '\r' || c == '\n'

/-- The characters that operators are made of. -/
def isOperatorChar (c : Char) : Bool :=
  c == '!' || c == '=' || c == '<' || c == '>' || c == '~' || c == '|' || c == '&'

/-- The characters that end a word unless a backslash stands before them. -/
def isSpecial (c : Char) : Bool :=
  isGap c || isOperatorChar c || c == ',' || (Quote.ofMark? c).isSome ||
    (Bracket.ofOpening? c).isSome || (Bracket.ofClosing? c).isSome || c == '\\'

/-- The lexeme under way: its first byte, its text so far, and, where escapes
are known, whether the last character was a backslash that escapes the next. -/
inductive Mode where
  | idle
  | operator (start : Nat) (text : String)
  | quotation (quote : Quote) (start : Nat) (text : String) (escaping : Bool)
  | word (start : Nat) (text : String) (escaping : Bool)
  deriving Repr, DecidableEq

namespace Mode

/-- Reads a character at which no lexeme is under way. -/
def begin
    (offset : Nat)
    (c : Char) : List (Located Lexeme) × Mode :=
  let single : Span := ⟨offset, offset + c.utf8Size⟩
  if isGap c then
    ([], idle)
  else if isOperatorChar c then
    ([], operator offset (String.singleton c))
  else if c = ',' then
    ([⟨comma, single⟩], idle)
  else if c = '\\' then
    ([], word offset "" true)
  else
    match Bracket.ofOpening? c, Bracket.ofClosing? c, Quote.ofMark? c with
    | some bracket, _, _ => ([⟨opening bracket, single⟩], idle)
    | _, some bracket, _ => ([⟨closing bracket, single⟩], idle)
    | _, _, some quote => ([], quotation quote offset "" false)
    | none, none, none => ([], word offset (String.singleton c) false)

/-- The lexeme under way, when it ends at `offset`.  A word that is nothing but
an unfinished escape is none. -/
def ended
    (mode : Mode)
    (offset : Nat) : List (Located Lexeme) :=
  match mode with
  | idle => []
  | operator start text => [⟨.operator text, ⟨start, offset⟩⟩]
  | quotation quote start text escaping =>
      [⟨.quotation quote text,
        ⟨start, if escaping then offset - 1 else offset⟩⟩]
  | word start text escaping =>
      if escaping then
        if text = "" then
          []
        else
          [⟨.word text, ⟨start, offset - 1⟩⟩]
      else
        [⟨.word text, ⟨start, offset⟩⟩]

/-- Ends the lexeme under way and reads a character afresh. -/
def restart
    (mode : Mode)
    (offset : Nat)
    (c : Char) : List (Located Lexeme) × Mode :=
  let begun := begin offset c
  (mode.ended offset ++ begun.1, begun.2)

/-- Reads one character: the lexemes that are complete with it, and what is
under way after it. -/
def read
    (mode : Mode)
    (offset : Nat)
    (c : Char) : List (Located Lexeme) × Mode :=
  match mode with
  | idle => begin offset c
  | operator start text =>
      if isOperatorChar c then
        ([], operator start (text.push c))
      else
        mode.restart offset c
  | quotation quote start text true =>
      ([], quotation quote start (text.push c) false)
  | quotation quote start text false =>
      if c = '\\' then
        ([], quotation quote start text true)
      else if c = quote.mark then
        ([⟨.quotation quote text, ⟨start, offset + c.utf8Size⟩⟩], idle)
      else
        ([], quotation quote start (text.push c) false)
  | word start text true =>
      ([], word start (text.push c) false)
  | word start text false =>
      if c = '\\' then
        ([], word start text true)
      else if isSpecial c then
        mode.restart offset c
      else
        ([], word start (text.push c) false)

/-- Reads characters, the first of them at `offset`, to the end of the source. -/
def readAll
    (mode : Mode)
    (offset : Nat) :
    List Char → List (Located Lexeme)
  | [] => mode.ended offset
  | c :: rest =>
      let step := mode.read offset c
      step.1 ++ readAll step.2 (offset + c.utf8Size) rest

end Mode

end Lexeme

/-- The lexemes of a source, in order. -/
def lexemes (source : String) : List (Located Lexeme) :=
  Lexeme.Mode.idle.readAll 0 source.toList

end DataBinding
