import DataBinding.Instruction.Prepare
import DataBinding.Projection.Dispatch
import DataBinding.Projection.Immediate

namespace DataBinding

/-!
# Rendering

A render starts from the element with its templates restored.  Commands are
taken in order: immediate ones change the element at once, and removal, events
and calls wait until all of them are taken.  Errors, false conditions and null
values have no effect but in the report.
-/

/-- The outcome of rendering an element. -/
structure RenderReport where
  applied : Nat := 0
  skipped : Nat := 0
  errors : List ParseError := []
  dispatchErrors : List DispatchError := []
  deriving Repr

/-- Whether nothing went wrong. -/
def RenderReport.isClean (report : RenderReport) : Bool :=
  report.errors.isEmpty && report.dispatchErrors.isEmpty

/-- A render half way: the element so far, the report so far and the commands
that wait. -/
structure Staging where
  element : Element
  report : RenderReport
  waiting : List Command
  deriving Repr

namespace Staging

/-- Whether a command has any effect: its condition holds and its value is not
null. -/
def isActive (command : Command) : Bool :=
  command.condition && !command.value.isNull

/-- Takes the outcome of one instruction. -/
def take
    (settings : Settings)
    (staging : Staging) :
    Except ParseError Command → Staging
  | .error error =>
      { staging with report.errors := staging.report.errors ++ [error] }
  | .ok command =>
      if isActive command then
        let counted :=
          { staging with report.applied := staging.report.applied + 1 }
        if command.action.isDeferred then
          { counted with waiting := staging.waiting ++ [command] }
        else
          { counted with element := settings.applyImmediate command staging.element }
      else
        { staging with report.skipped := staging.report.skipped + 1 }

/-- Takes the outcomes of all instructions. -/
def takeAll
    (settings : Settings)
    (element : Element)
    (outcomes : List (Except ParseError Command)) : Staging :=
  outcomes.foldl (take settings) { element, report := {}, waiting := [] }

end Staging

/-- What a command tells an event or a call. -/
def Command.detail
    (command : Command)
    (context : Context) : Detail where
  value := command.value
  data := context.data
  arguments := command.arguments

namespace Dispatcher

/-- Carries out a command that has waited.  An event without a name does nothing,
and a call without one asks for the callback with the empty name. -/
def runDeferred
    (dispatcher : Dispatcher σ)
    (context : Context)
    (command : Command)
    (element : Element)
    (state : σ) : Except DispatchError Unit × Element × σ :=
  match command.action with
  | .remove => (.ok (), { element with removed := element.removed || command.isTruthy }, state)
  | .event =>
      match command.parameter? with
      | some name =>
          let (outcome, state) := dispatcher.fire element name (command.detail context) state
          (outcome, element, state)
      | none => (.ok (), element, state)
  | .call =>
      dispatcher.invoke element (command.parameter?.getD "") (command.detail context) state
  | _ => (.ok (), element, state)

/-- Carries out commands that have waited, in order, and lists what went wrong. -/
def runAllDeferred
    (dispatcher : Dispatcher σ)
    (context : Context)
    (element : Element)
    (state : σ) :
    List Command → List DispatchError × Element × σ
  | [] => ([], element, state)
  | command :: rest =>
      let (outcome, element, state) := dispatcher.runDeferred context command element state
      let (errors, element, state) := dispatcher.runAllDeferred context element state rest
      match outcome with
      | .ok () => (errors, element, state)
      | .error error => (error :: errors, element, state)

end Dispatcher

namespace Settings

/-- Applies the outcomes of instructions to an element. -/
def apply
    (settings : Settings)
    (dispatcher : Dispatcher σ)
    (context : Context)
    (outcomes : List (Except ParseError Command))
    (element : Element)
    (state : σ) : RenderReport × Element × σ :=
  let staging := Staging.takeAll settings (settings.restore element) outcomes
  let (errors, element, state) :=
    dispatcher.runAllDeferred context staging.element state staging.waiting
  ({ staging.report with dispatchErrors := errors }, element, state)

/-- Renders an element by the instructions in its instruction attribute. -/
def render
    (settings : Settings)
    (dispatcher : Dispatcher σ)
    (context : Context)
    (element : Element)
    (state : σ) : RenderReport × Element × σ :=
  match element.attribute? settings.attributes.instruction with
  | none => ({}, element, state)
  | some source =>
      settings.apply dispatcher context (prepareEach context source) element state

end Settings

end DataBinding
