import DataBinding.Instruction.ParseError
import DataBinding.Value.Context

namespace DataBinding

/-!
# Evaluation of tokens

Every operand of a condition is first reduced to a truth value, comparisons
included, and nested blocks become parentheses.  The symbols that this leaves
are a formula, and the value of the condition is that of the formula.
-/

/-- The relations between two values that a comparison can ask for. -/
inductive Relation where
  | equal
  | different
  | less
  | atMost
  | greater
  | atLeast
  deriving Repr, DecidableEq

namespace Relation

/-- All relations, in the order in which they are listed. -/
def all : List Relation :=
  [equal, different, less, atMost, greater, atLeast]

/-- The operator that asks for a relation. -/
def operator : Relation → String
  | equal => "=="
  | different => "!="
  | less => "<"
  | atMost => "<="
  | greater => ">"
  | atLeast => ">="

/-- The relation that an operator asks for. -/
def ofOperator? (text : String) : Option Relation :=
  all.find? fun relation => relation.operator == text

/-- The list of comparison operators. -/
def operators : List String :=
  all.map operator

/-- Whether two values stand in a relation.  Values without an order stand in no
relation of order. -/
def holds
    (relation : Relation)
    (left right : Value) : Bool :=
  match relation with
  | equal => left.equal right
  | different => !left.equal right
  | less => left.compare? right == some .lt
  | atMost => left.compare? right == some .lt || left.compare? right == some .eq
  | greater => left.compare? right == some .gt
  | atLeast => left.compare? right == some .gt || left.compare? right == some .eq

end Relation

namespace Symbol

/-- The symbol that an operator stands for in a formula. -/
def ofOperator? (text : String) : Option Symbol :=
  [negation, conjunction, disjunction].find? fun symbol => symbol.text == text

/-- The list of operators of formulas. -/
def operators : List String :=
  [negation.text, conjunction.text, disjunction.text]

end Symbol

namespace Token

/-- The relation that a token asks for. -/
def relation? (token : Token) : Option Relation :=
  token.operator?.bind Relation.ofOperator?

/-- Whether a token is a comparison operator. -/
def isComparison (token : Token) : Bool :=
  token.relation?.isSome

/-- The value of a name or a text. -/
def plainValue?
    (context : Context) :
    Token → Option Value
  | name path _ => some (context.lookup path)
  | quotation _ text _ => some (.string text)
  | number value _ => some (.number value)
  | _ => none

/-- Compares a value with that of a token.  Both are taken as scalars, and only a
name or a text may stand on the right. -/
def compareWith
    (context : Context)
    (left : Except Fault Value)
    (operator right : Token) : Except Fault Bool :=
  match right.plainValue? context with
  | none => .error (.unexpected right .comparand)
  | some value => do
      let left ← left
      match operator.relation? with
      | some relation => .ok (relation.holds left.toScalar value.toScalar)
      | none => .error (.unknownOperator operator Relation.operators)

/-- The value of the formula that tokens are reduced to.  Without symbols it is
false. -/
def conclude
    (tokens : List Token)
    (symbols : List (Located Symbol)) : Except Fault Bool :=
  if symbols = [] then
    .ok false
  else
    let stop := (tokens.getLast?.map fun token => token.span.stop).getD 0
    (Formula.evaluate symbols stop).mapError Fault.expression

/-- The symbols of a block with given symbols inside: parentheses at its brackets,
and false between them if there is nothing inside. -/
def parenthesized
    (span : Span)
    (inner : List (Located Symbol)) : List (Located Symbol) :=
  let inside := if inner = [] then [⟨.operand false, span⟩] else inner
  ⟨.opening, ⟨span.start, span.start + 1⟩⟩ :: inside ++
    [⟨.closing, ⟨span.stop - 1, span.stop⟩⟩]

mutual

/-- The value of an operand: what a name leads to, a literal, or the truth value
of a block. -/
def value
    (context : Context) :
    Token → Except Fault Value
  | block _ tokens _ => do
      let symbols ← symbols context tokens
      let truth ← conclude tokens symbols
      .ok (.bool truth)
  | token =>
      match token.plainValue? context with
      | some value => .ok value
      | none => .error (.unexpected token .value)

/-- The symbols that one token is reduced to. -/
def symbolsOf
    (context : Context) :
    Token → Except Fault (List (Located Symbol))
  | block _ tokens span => do
      let inner ← symbols context tokens
      .ok (parenthesized span inner)
  | operator text span =>
      match Symbol.ofOperator? text with
      | some symbol => .ok [⟨symbol, span⟩]
      | none => .error (.unknownOperator (operator text span) Symbol.operators)
  | token =>
      match token.plainValue? context with
      | some value => .ok [⟨.operand value.isTruthy, token.span⟩]
      | none => .error (.unexpected token .formulaPart)

/-- The symbols that tokens are reduced to.  An operand, a comparison operator
and a third token are reduced together. -/
def symbols
    (context : Context) :
    List Token → Except Fault (List (Located Symbol))
  | [] => .ok []
  | left :: comparison :: right :: rest =>
      if left.isOperand && comparison.isComparison then do
        let holds ← compareWith context (value context left) comparison right
        let others ← symbols context rest
        .ok (⟨.operand holds, ⟨left.span.start, right.span.stop⟩⟩ :: others)
      else do
        let first ← symbolsOf context left
        let others ← symbols context (comparison :: right :: rest)
        .ok (first ++ others)
  | token :: rest => do
      let first ← symbolsOf context token
      let others ← symbols context rest
      .ok (first ++ others)

end

/-- The truth value of the tokens inside a block. -/
def truth
    (context : Context)
    (tokens : List Token) : Except Fault Bool := do
  conclude tokens (← symbols context tokens)

/-- Compares the values of two tokens as scalars. -/
def compare
    (context : Context)
    (left operator right : Token) : Except Fault Bool :=
  compareWith context (left.value context) operator right

/-- The value of an operand as a scalar under a count of negations. -/
def scalar
    (context : Context)
    (negations : Nat)
    (token : Token) : Except Fault Value := do
  let value ← token.value context
  .ok (value.toScalar.negate negations)

/-- The value of one argument: that of a single token as it is, and otherwise the
truth value of the tokens. -/
def argument
    (context : Context) :
    List Token → Except Fault Value
  | [token] => token.value context
  | tokens => do
      let truth ← truth context tokens
      .ok (.bool truth)

/-- The values of the arguments in a block, which separators part. -/
def arguments
    (context : Context)
    (tokens : List Token) : Except Fault (List Value) :=
  if tokens.isEmpty then
    .ok []
  else
    (tokens.splitOnP isSeparator).mapM (argument context)

end Token

end DataBinding
