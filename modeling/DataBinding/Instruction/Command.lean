import DataBinding.Instruction.Evaluation
import DataBinding.Json.Text
import DataBinding.Text.Quoted

namespace DataBinding

/-!
# Commands

A command is what an instruction asks for in a context.  An instruction is read
from left to right:

```text
[!|!!] VALUE ACTION [PARAMETER] [(ARGUMENTS)] [!|!!] [CONDITION]
```

Each step takes what it can from the front of the tokens and hands the rest on.
-/

/-- What an instruction asks for, all its parts evaluated. -/
structure Command where
  action : Action
  value : Value
  /-- How often the value was negated. -/
  negations : Nat
  /-- The path that the value was looked up at. -/
  path? : Option String
  parameter? : Option String
  arguments : List Value
  /-- The truth value of the condition; without one it is true. -/
  condition : Bool
  deriving Repr

namespace Command

/-- A command with nothing but an action and a value. -/
def ofAction
    (action : Action)
    (value : Value) : Command where
  action := action
  value := value
  negations := 0
  path? := none
  parameter? := none
  arguments := []
  condition := true

/-- The truth of the value. -/
def isTruthy (command : Command) : Bool :=
  command.value.isTruthy

/-- The text of a command.  Only what is present is listed. -/
def text (command : Command) : String :=
  let value :=
    match command.value with
    | .string text => Text.quoted text
    | value => value.display
  let parameter :=
    match command.parameter? with
    | some parameter => " " ++ parameter
    | none => ""
  let origin :=
    match command.path? with
    | some path => " variable=" ++ path
    | none => ""
  let arguments :=
    if command.arguments.isEmpty then
      ""
    else
      " arguments=[" ++ String.intercalate ", " (command.arguments.map Value.display) ++ "]"
  command.action.keyword ++ parameter ++ " value=" ++ value ++ " bool=" ++
    (Value.bool command.isTruthy).display ++ origin ++ arguments ++
    (if command.condition then "" else " (guard false)")

end Command

namespace Token

/-- The operators that negate, and how often each does. -/
def negations : List (String × Nat) :=
  [("!", 1), ("!!", 2)]

/-- Takes a negation from the front: how often it negates, and the rest. -/
def takeNegation : List Token → Except Fault (Nat × List Token)
  | operator text span :: rest =>
      match negations.lookup text with
      | some count => .ok (count, rest)
      | none => .error (.unknownOperator (operator text span) (negations.map Prod.fst))
  | tokens => .ok (0, tokens)

/-- The value of an instruction before negation, and the path it comes from. -/
structure Subject where
  value : Value
  path? : Option String
  deriving Repr

/-- The subject that a single token is. -/
def subject
    (context : Context) :
    Token → Except Fault Subject
  | name path _ => .ok ⟨context.lookup path, some path⟩
  | token => do
      let value ← token.value context
      .ok ⟨value, none⟩

/-- Takes the subject from the front.  An operand, a comparison operator and a
third token are one subject. -/
def takeSubject
    (context : Context)
    (stop : Nat) :
    List Token → Except Fault (Subject × List Token)
  | [] => .error (.missing stop .value)
  | left :: comparison :: right :: rest =>
      if left.isOperand && comparison.isComparison then do
        let holds ← compare context left comparison right
        .ok (⟨.bool holds, none⟩, rest)
      else do
        let subject ← left.subject context
        .ok (subject, comparison :: right :: rest)
  | token :: rest => do
      let subject ← token.subject context
      .ok (subject, rest)

/-- The word that may name an action. -/
def actionWord? : Token → Option String
  | name text _ => some text
  | operator text _ => some text
  | _ => none

/-- Takes the action from the front, with the parameter in its word. -/
def takeAction
    (stop : Nat) :
    List Token → Except Fault ((Action × Option String) × List Token)
  | [] => .error (.missing stop .action)
  | token :: rest =>
      match token.actionWord? with
      | none => .error (.unexpected token .action)
      | some word =>
          match Action.resolve? word with
          | some named => .ok (named, rest)
          | none => .error (.unknownAction token)

/-- The text of a token that can be a parameter. -/
def parameterText? : Token → Option String
  | name text _ => some text
  | quotation _ text _ => some text
  | number value _ => some value.display
  | _ => none

/-- Takes the parameter from the front, unless the word of the action has one. -/
def takeParameter
    (embedded : Option String) :
    List Token → Option String × List Token
  | [] => (embedded, [])
  | token :: rest =>
      match embedded, token.parameterText? with
      | some parameter, _ => (some parameter, token :: rest)
      | none, some parameter => (some parameter, rest)
      | none, none => (none, token :: rest)

/-- Takes the arguments from the front. -/
def takeArguments
    (context : Context)
    (action : Action) :
    List Token → Except Fault (List Value × List Token)
  | block .round tokens span :: rest =>
      if action.takesArguments then do
        let arguments ← arguments context tokens
        .ok (arguments, rest)
      else
        .error (.unwantedArguments action (block .round tokens span))
  | tokens => .ok ([], tokens)

/-- Takes the condition, behind which nothing may stand. -/
def takeCondition
    (context : Context) :
    List Token → Except Fault Bool
  | [] => .ok true
  | block .brace tokens _ :: rest => do
      let truth ← truth context tokens
      match rest with
      | [] => .ok truth
      | token :: _ => .error (.unexpected token .endOfInstruction)
  | token :: _ => .error (.unexpected token .conditionOrEnd)

/-- The command that tokens ask for; what is missing is missing at `stop`. -/
def command
    (context : Context)
    (stop : Nat)
    (tokens : List Token) : Except Fault Command := do
  let (count, tokens) ← takeNegation tokens
  let (subject, tokens) ← takeSubject context stop tokens
  let ((action, embedded), tokens) ← takeAction stop tokens
  let (parameter?, tokens) := takeParameter embedded tokens
  let (arguments, tokens) ← takeArguments context action tokens
  let (conditionCount, tokens) ← takeNegation tokens
  let condition ← takeCondition context tokens
  .ok {
    action, parameter?, arguments
    value := subject.value.toScalar.negate count
    negations := count
    path? := subject.path?
    condition := condition ^^ decide (conditionCount % 2 = 1) }

end Token

end DataBinding
