import DataBinding.Text.Span

namespace DataBinding

/-!
# Formulas over truth values

A formula is a sequence of symbols: operands, negation, conjunction, disjunction
and parentheses, binding in this order.  It is read once from left to right by a
machine whose memory is one frame for each open parenthesis.  The first symbol
that does not fit is the error.
-/

/-- A symbol of a formula. -/
inductive Symbol where
  | operand (value : Bool)
  | negation
  | conjunction
  | disjunction
  | opening
  | closing
  deriving Repr, DecidableEq

/-- The text of a symbol. -/
def Symbol.text : Symbol → String
  | operand true => "1"
  | operand false => "0"
  | negation => "!"
  | conjunction => "&&"
  | disjunction => "||"
  | opening => "("
  | closing => ")"

namespace Formula

/-- What would have fitted where a formula goes wrong. -/
inductive Expected where
  | operand
  | operatorOrEnd
  | operatorOrClosing
  deriving Repr, DecidableEq

/-- The wording of what would have fitted. -/
def Expected.text : Expected → String
  | operand => "'!', something else, or '('"
  | operatorOrEnd => "'&&', '||', or end of input"
  | operatorOrClosing => "'&&', '||', or ')'"

/-- The place where a formula goes wrong.  Nothing is found at its end. -/
structure Misfit where
  found : Option Symbol
  expected : Expected
  span : Span
  deriving Repr, DecidableEq

/-- The wording of a misfit. -/
def Misfit.message (misfit : Misfit) : String :=
  let found :=
    match misfit.found with
    | some symbol => "'" ++ symbol.text ++ "'"
    | none => "end of input"
  "found " ++ found ++ " expected " ++ misfit.expected.text

/-- The formula so far inside one pair of parentheses: the value of the complete
disjuncts, that of the conjuncts of the last disjunct, and whether the operand
to come is negated. -/
structure Frame where
  anyBefore : Bool
  allBefore : Bool
  negated : Bool
  deriving Repr, DecidableEq

namespace Frame

/-- Nothing read. -/
def empty : Frame where
  anyBefore := false
  allBefore := true
  negated := false

/-- The value of what is read. -/
def value (frame : Frame) : Bool :=
  frame.anyBefore || frame.allBefore

/-- Negates the operand to come. -/
def negate (frame : Frame) : Frame :=
  { frame with negated := !frame.negated }

/-- Takes an operand. -/
def take
    (frame : Frame)
    (operand : Bool) : Frame :=
  { frame with
    allBefore := frame.allBefore && (operand ^^ frame.negated)
    negated := false }

/-- Begins another disjunct. -/
def disjoin (frame : Frame) : Frame :=
  { empty with anyBefore := frame.value }

end Frame

/-- The machine: the frame at hand, the frames of the parentheses around it, the
innermost first, and whether an operand must come next. -/
structure Reader where
  frame : Frame
  outer : List Frame
  wantsOperand : Bool
  deriving Repr, DecidableEq

namespace Reader

/-- The start of a formula. -/
def start : Reader where
  frame := .empty
  outer := []
  wantsOperand := true

/-- What fits next. -/
def expected (reader : Reader) : Expected :=
  if reader.wantsOperand then
    .operand
  else if reader.outer = [] then
    .operatorOrEnd
  else
    .operatorOrClosing

/-- Reads a symbol, if it fits. -/
def read?
    (reader : Reader)
    (symbol : Symbol) : Option Reader :=
  match reader.wantsOperand, symbol with
  | true, .operand value => some ⟨reader.frame.take value, reader.outer, false⟩
  | true, .negation => some ⟨reader.frame.negate, reader.outer, true⟩
  | true, .opening => some ⟨.empty, reader.frame :: reader.outer, true⟩
  | false, .conjunction => some ⟨reader.frame, reader.outer, true⟩
  | false, .disjunction => some ⟨reader.frame.disjoin, reader.outer, true⟩
  | false, .closing =>
      match reader.outer with
      | [] => none
      | frame :: outer => some ⟨frame.take reader.frame.value, outer, false⟩
  | _, _ => none

/-- Reads symbols to the end of the formula.  `start` is where the end is
reported to begin, and `stop` where the symbol before ended. -/
def readAll
    (start : Nat)
    (reader : Reader)
    (stop : Nat) :
    List (Located Symbol) → Except Misfit Bool
  | [] =>
      if reader.expected = .operatorOrEnd then
        .ok reader.frame.value
      else
        .error ⟨none, reader.expected, ⟨start, stop⟩⟩
  | ⟨symbol, span⟩ :: rest =>
      match reader.read? symbol with
      | some next => readAll start next span.stop rest
      | none => .error ⟨some symbol, reader.expected, span⟩

end Reader

/-- The value of a formula that ends at an offset. -/
def evaluate
    (symbols : List (Located Symbol))
    (stop : Nat) : Except Misfit Bool :=
  Reader.start.readAll stop stop symbols

end Formula

end DataBinding
