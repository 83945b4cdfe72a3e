import DataBinding.Instruction.Action
import DataBinding.Instruction.Formula
import DataBinding.Instruction.Token

namespace DataBinding

/-!
# Errors of instructions

A fault is a cause and its place.  An error of an instruction is a fault
together with the text of the instruction, which its message quotes.
-/

/-- What would have fitted in the place of a token. -/
inductive Expected where
  | value
  | action
  | comparand
  | formulaPart
  | conditionOrEnd
  | endOfInstruction
  deriving Repr, DecidableEq

/-- The wording of what would have fitted. -/
def Expected.text : Expected → String
  | value => "a variable, text or block"
  | action => "an action"
  | comparand => "a variable or text after the comparison"
  | formulaPart => "an operand or operator"
  | conditionOrEnd => "a \x7bcondition\x7d block or the end of the instruction"
  | endOfInstruction => "the end of the instruction"

/-- Why an instruction is refused.  An unexpected token may be missing. -/
inductive Cause where
  | unexpected (found : Option Token) (expected : Expected)
  | unknownAction (found : Token)
  | unknownOperator (found : Token) (supported : List String)
  | unwantedArguments (action : Action) (found : Token)
  | expression (misfit : Formula.Misfit)
  deriving Repr

/-- A cause and its place in the source. -/
structure Fault where
  cause : Cause
  span : Span
  deriving Repr

namespace Fault

/-- A token of the wrong kind. -/
def unexpected
    (token : Token)
    (expected : Expected) : Fault where
  cause := .unexpected (some token) expected
  span := token.span

/-- A token that is missing at the end of an instruction. -/
def missing
    (stop : Nat)
    (expected : Expected) : Fault where
  cause := .unexpected none expected
  span := ⟨stop, stop⟩

/-- A word that names no action. -/
def unknownAction (token : Token) : Fault where
  cause := .unknownAction token
  span := token.span

/-- An operator that is none of the supported ones. -/
def unknownOperator
    (token : Token)
    (supported : List String) : Fault where
  cause := .unknownOperator token supported
  span := token.span

/-- Arguments of an action that takes none. -/
def unwantedArguments
    (action : Action)
    (token : Token) : Fault where
  cause := .unwantedArguments action token
  span := token.span

/-- A formula that goes wrong. -/
def expression (misfit : Formula.Misfit) : Fault where
  cause := .expression misfit
  span := misfit.span

end Fault

namespace Cause

/-- The name of the kind of a cause. -/
def kindName : Cause → String
  | unexpected _ _ => "UnexpectedToken"
  | unknownAction _ => "UnknownAction"
  | unknownOperator _ _ => "UnknownOperator"
  | unwantedArguments _ _ => "InvalidArguments"
  | expression _ => "Expression"

/-- The heading of a report. -/
def title : Cause → String
  | unexpected _ _ => "Unexpected token"
  | unknownAction _ => "Unknown action"
  | unknownOperator _ _ => "Unknown operator"
  | unwantedArguments _ _ => "Unexpected arguments"
  | expression _ => "Invalid expression"

/-- The description of what was found. -/
def found : Cause → String
  | unexpected (some token) _ => token.describe
  | unexpected none _ => "end of instruction"
  | unknownAction token => token.describe
  | unknownOperator token _ => token.describe
  | unwantedArguments _ token => token.describe
  | expression misfit =>
      match misfit.found with
      | some symbol => "'" ++ symbol.text ++ "'"
      | none => "end of block"

/-- The short wording next to the place in a report. -/
def label (cause : Cause) : String :=
  match cause with
  | unexpected _ expected => "found " ++ cause.found ++ ", expected " ++ expected.text
  | unknownAction _ => cause.found ++ " is not an action: " ++ Action.supported
  | unknownOperator _ supported =>
      cause.found ++ " is not one of " ++ String.intercalate ", " supported
  | unwantedArguments action _ => "'" ++ action.keyword ++ "' does not accept arguments"
  | expression misfit => misfit.message

end Cause

/-- A fault in an instruction with a given text. -/
structure ParseError where
  fault : Fault
  instruction : String
  deriving Repr

/-- The full wording of an error. -/
def ParseError.message (error : ParseError) : String :=
  let cause := error.fault.cause
  let quoted := " in \"" ++ error.instruction ++ "\""
  match cause with
  | .unexpected _ expected =>
      "unexpected " ++ cause.found ++ ", expected " ++ expected.text ++ quoted
  | .unknownAction _ =>
      "unknown action " ++ cause.found ++ quoted ++ ", supported actions: " ++ Action.supported
  | .unknownOperator _ supported =>
      "unknown operator " ++ cause.found ++ quoted ++ ", supported operators: " ++
        String.intercalate ", " supported
  | .unwantedArguments action _ =>
      "action '" ++ action.keyword ++ "' takes no arguments, found " ++ cause.found ++ quoted
  | .expression misfit =>
      "invalid expression " ++ cause.found ++ quoted ++ ": " ++ misfit.message

end DataBinding
