import DataBinding.Instruction.Token

namespace DataBinding

/-!
# Instructions of a source

The lexemes of a source are put together by a machine with a stack: one entry
for each block that is open.  A comma outside all blocks ends an instruction,
and instructions without tokens are dropped.  A closing bracket that does not
match the innermost open block is a name.  The end of the source closes the
blocks that are still open.
-/

/-- A part of a source between commas outside all blocks. -/
structure Instruction where
  /-- The text from the first token to the end of the last. -/
  source : String
  span : Span
  tokens : List Token
  deriving Repr

/-- A block that is open: its bracket, where that stands, and the tokens in front
of it in its own sequence. -/
structure OpenBlock where
  bracket : Bracket
  start : Nat
  before : List Token
  deriving Repr

/-- The sequence around a block that is open, with the block closed at its end. -/
def OpenBlock.closed
    (innermost : OpenBlock)
    (tokens : List Token)
    (stop : Nat) : List Token :=
  innermost.before ++ [.block innermost.bracket tokens ⟨innermost.start, stop⟩]

namespace Token

/-- The token of a word: none if it is blank, a number if it reads as one. -/
def ofWord
    (word : String)
    (span : Span) : List Token :=
  let trimmed := Text.trim word
  if trimmed = "" then
    []
  else
    match Number.parse? trimmed with
    | some value => [number value span]
    | none => [name trimmed span]

end Token

/-- The machine that puts lexemes together: the blocks that are open, the
innermost first, and the tokens so far in the innermost of them. -/
structure Nesting where
  opened : List OpenBlock
  tokens : List Token
  deriving Repr

namespace Nesting

/-- The start of an instruction. -/
def start : Nesting where
  opened := []
  tokens := []

/-- Adds tokens to the innermost sequence. -/
def push
    (nesting : Nesting)
    (tokens : List Token) : Nesting :=
  { nesting with tokens := nesting.tokens ++ tokens }

/-- Opens a block. -/
def openBlock
    (nesting : Nesting)
    (bracket : Bracket)
    (start : Nat) : Nesting where
  opened := ⟨bracket, start, nesting.tokens⟩ :: nesting.opened
  tokens := []

/-- Reads a closing bracket, which is a name unless it closes the innermost
block. -/
def closeBlock
    (nesting : Nesting)
    (bracket : Bracket)
    (span : Span) : Nesting :=
  let stray : Token := .name (String.singleton bracket.closing) span
  match nesting.opened with
  | [] => nesting.push [stray]
  | innermost :: outer =>
      if innermost.bracket = bracket then
        ⟨outer, innermost.closed nesting.tokens span.stop⟩
      else
        nesting.push [stray]

/-- Reads a lexeme: the sequence that it completes, if there is one, and what is
under way after it. -/
def take
    (nesting : Nesting)
    (located : Located Lexeme) : Option (List Token) × Nesting :=
  let span := located.span
  match located.value with
  | .comma =>
      match nesting.opened with
      | [] => (some nesting.tokens, start)
      | _ :: _ => (none, nesting.push [.separator span])
  | .opening bracket => (none, nesting.openBlock bracket span.start)
  | .closing bracket => (none, nesting.closeBlock bracket span)
  | .operator text => (none, nesting.push [.operator text span])
  | .quotation quote text => (none, nesting.push [.quotation quote text span])
  | .word text => (none, nesting.push (Token.ofWord text span))

/-- The sequence that is left when all open blocks end at an offset. -/
def closeAll
    (stop : Nat)
    (tokens : List Token) :
    List OpenBlock → List Token
  | [] => tokens
  | innermost :: outer => closeAll stop (innermost.closed tokens stop) outer

/-- The sequences of tokens between commas outside all blocks.  `stop` is where
the lexeme before ended. -/
def sequences
    (nesting : Nesting)
    (stop : Nat) :
    List (Located Lexeme) → List (List Token)
  | [] => [closeAll stop nesting.tokens nesting.opened]
  | located :: rest =>
      let step := nesting.take located
      step.1.toList ++ sequences step.2 located.span.stop rest

end Nesting

namespace Instruction

/-- The instruction that some tokens of a source make up, if there are any. -/
def ofTokens?
    (source : String)
    (tokens : List Token) : Option Instruction :=
  match tokens.head?, tokens.getLast? with
  | some first, some last =>
      let span : Span := ⟨first.span.start, last.span.stop⟩
      some { source := Text.slice source span, span, tokens }
  | _, _ => none

/-- The text of an instruction, written from its tokens. -/
def text (instruction : Instruction) : String :=
  String.ofList (Token.sequenceChars instruction.tokens)

end Instruction

/-- The instructions of a source, in order. -/
def instructions (source : String) : List Instruction :=
  (Nesting.start.sequences 0 (lexemes source)).filterMap (Instruction.ofTokens? source)

end DataBinding
