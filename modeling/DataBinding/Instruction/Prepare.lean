import DataBinding.Instruction.Basic
import DataBinding.Instruction.Command

namespace DataBinding

/-!
# Preparing instruction lists

Each instruction of a source is turned into a command by itself, so that one
that fails has no effect on the others.
-/

/-- The command of an instruction in a context. -/
def Instruction.command
    (context : Context)
    (instruction : Instruction) : Except ParseError Command :=
  (Token.command context instruction.span.stop instruction.tokens).mapError fun fault =>
    ⟨fault, instruction.source⟩

/-- The commands of a source, each instruction with its own outcome. -/
def prepareEach
    (context : Context)
    (source : String) : List (Except ParseError Command) :=
  (instructions source).map (Instruction.command context)

/-- The outcomes that are commands. -/
def commandsOf
    (outcomes : List (Except ParseError Command)) : List Command :=
  outcomes.filterMap Except.toOption

/-- The outcomes that are errors. -/
def errorsOf
    (outcomes : List (Except ParseError Command)) : List ParseError :=
  outcomes.filterMap fun
    | .ok _ => none
    | .error error => some error

/-- The commands of a source, or all errors if there is one. -/
def prepare
    (context : Context)
    (source : String) : Except (List ParseError) (List Command) :=
  let outcomes := prepareEach context source
  let errors := errorsOf outcomes
  if errors.isEmpty then
    .ok (commandsOf outcomes)
  else
    .error errors

/-- The wording of all errors of a source. -/
def errorsMessage (errors : List ParseError) : String :=
  "parse errors: " ++ String.intercalate "; " (errors.map ParseError.message)

end DataBinding
