import DataBinding.Projection.Render

namespace DataBinding

/-!
# What a render comes to

Only active commands have an effect.  When the host leaves elements alone, a
render applies them to the restored element one after the other, and the commands
that wait can do no more than mark the element as removed.
-/

/-- Whether a command removes its element. -/
def Command.removes (command : Command) : Bool :=
  match command.action with
  | .remove => command.isTruthy
  | _ => false

namespace Element

/-- Marks an element as removed, if it is to be. -/
def markRemoved
    (element : Element)
    (removed : Bool) : Element :=
  { element with removed := element.removed || removed }

section MarkRemoved

variable
  (element : Element)
  (removed : Bool)

@[simp]
theorem attribute?_markRemoved
    (name : String) :
    (element.markRemoved removed).attribute? name = element.attribute? name :=
  rfl

@[simp]
theorem tag_markRemoved :
    (element.markRemoved removed).tag = element.tag :=
  rfl

@[simp]
theorem children_markRemoved :
    (element.markRemoved removed).children = element.children :=
  rfl

@[simp]
theorem isHtml_markRemoved :
    (element.markRemoved removed).isHtml = element.isHtml :=
  rfl

theorem removed_markRemoved :
    (element.markRemoved removed).removed = (element.removed || removed) :=
  rfl

end MarkRemoved

@[simp]
theorem markRemoved_false
    (element : Element) :
    element.markRemoved false = element := by
  cases element
  simp [markRemoved]

theorem markRemoved_markRemoved
    (element : Element)
    (first second : Bool) :
    (element.markRemoved first).markRemoved second =
      element.markRemoved (first || second) := by
  simp [markRemoved, Bool.or_assoc]

end Element

/-- The commands of a source that have any effect. -/
def activeCommands
    (context : Context)
    (source : String) : List Command :=
  (commandsOf (prepareEach context source)).filter Staging.isActive

theorem mem_activeCommands
    {context : Context}
    {source : String}
    {command : Command} :
    command ∈ activeCommands context source ↔
      (∃ instruction ∈ instructions source, instruction.command context = .ok command) ∧
        Staging.isActive command = true := by
  have isOk :
      ∀ outcome : Except ParseError Command,
        outcome.toOption = some command ↔ outcome = .ok command := by
    rintro (_ | _) <;> simp [Except.toOption]
  simp [activeCommands, commandsOf, prepareEach, isOk]

/-- The element after some commands. -/
def Settings.applyAll
    (settings : Settings)
    (commands : List Command)
    (element : Element) : Element :=
  commands.foldl (fun changed command => settings.applyImmediate command changed) element

theorem Settings.applyImmediate_of_isDeferred
    (settings : Settings)
    {command : Command}
    (deferred : command.action.isDeferred = true)
    (element : Element) :
    settings.applyImmediate command element = element := by
  unfold applyImmediate
  cases action : command.action <;> simp_all [Action.isDeferred]

namespace Staging

/-- The command that an outcome stands for, if it has any effect. -/
theorem take_element
    (settings : Settings)
    (staging : Staging)
    (outcome : Except ParseError Command) :
    (staging.take settings outcome).element =
      settings.applyAll (outcome.toOption.toList.filter isActive) staging.element := by
  cases outcome with
  | error error =>
      rfl
  | ok command =>
      by_cases active : isActive command = true
      · by_cases deferred : command.action.isDeferred = true
        · simp [take, Settings.applyAll, Except.toOption, active, deferred,
            settings.applyImmediate_of_isDeferred deferred]
        · simp [take, Settings.applyAll, Except.toOption, active, deferred]
      · simp [take, Settings.applyAll, Except.toOption, active]

theorem take_waiting
    (settings : Settings)
    (staging : Staging)
    (outcome : Except ParseError Command) :
    (staging.take settings outcome).waiting =
      staging.waiting ++
        (outcome.toOption.toList.filter isActive).filter
          fun command => command.action.isDeferred := by
  cases outcome with
  | error error =>
      simp [take, Except.toOption]
  | ok command =>
      by_cases active : isActive command = true
      · by_cases deferred : command.action.isDeferred = true <;>
          simp [take, Except.toOption, active, deferred]
      · simp [take, Except.toOption, active]

theorem commandsOf_cons
    (outcome : Except ParseError Command)
    (outcomes : List (Except ParseError Command)) :
    commandsOf (outcome :: outcomes) = outcome.toOption.toList ++ commandsOf outcomes := by
  cases outcome <;> rfl

theorem foldl_take_element
    (settings : Settings)
    (outcomes : List (Except ParseError Command))
    (staging : Staging) :
    (outcomes.foldl (take settings) staging).element =
      settings.applyAll ((commandsOf outcomes).filter isActive) staging.element := by
  induction outcomes generalizing staging with
  | nil =>
      rfl
  | cons outcome outcomes inductionHypothesis =>
      rw [List.foldl_cons, inductionHypothesis, take_element, commandsOf_cons,
        List.filter_append]
      simp only [Settings.applyAll, List.foldl_append]

theorem foldl_take_waiting
    (settings : Settings)
    (outcomes : List (Except ParseError Command))
    (staging : Staging) :
    (outcomes.foldl (take settings) staging).waiting =
      staging.waiting ++
        ((commandsOf outcomes).filter isActive).filter
          fun command => command.action.isDeferred := by
  induction outcomes generalizing staging with
  | nil =>
      simp [commandsOf]
  | cons outcome outcomes inductionHypothesis =>
      rw [List.foldl_cons, inductionHypothesis, take_waiting, commandsOf_cons,
        List.filter_append, List.filter_append, List.append_assoc]

end Staging

namespace Dispatcher

/-- Whether no call changes the element. -/
def LeavesElements (dispatcher : Dispatcher σ) : Prop :=
  ∀ element name detail state,
    (dispatcher.invoke element name detail state).2.1 = element

/-- A host that has no callbacks. -/
def unattended : Dispatcher Unit where
  fire _ _ _ state := (.ok (), state)
  invoke element name _ state := (.error (.unknownCallback name), element, state)

theorem unattended_leavesElements :
    unattended.LeavesElements :=
  fun _ _ _ _ => rfl

theorem runDeferred_element
    {dispatcher : Dispatcher σ}
    (leaves : dispatcher.LeavesElements)
    (context : Context)
    (command : Command)
    (element : Element)
    (state : σ) :
    (dispatcher.runDeferred context command element state).2.1 =
      element.markRemoved command.removes := by
  unfold runDeferred Command.removes
  cases command.action with
  | remove =>
      rfl
  | event =>
      cases command.parameter? <;> simp
  | call =>
      simpa using leaves element (command.parameter?.getD "") (command.detail context) state
  | _ =>
      simp

theorem runAllDeferred_element
    {dispatcher : Dispatcher σ}
    (leaves : dispatcher.LeavesElements)
    (context : Context)
    (commands : List Command)
    (element : Element)
    (state : σ) :
    (dispatcher.runAllDeferred context element state commands).2.1 =
      element.markRemoved (commands.any Command.removes) := by
  induction commands generalizing element state with
  | nil =>
      simp [runAllDeferred]
  | cons command commands inductionHypothesis =>
      rw [List.any_cons, ← Element.markRemoved_markRemoved,
        ← runDeferred_element leaves context command element state,
        ← inductionHypothesis]
      simp only [runAllDeferred]
      split <;> rfl

end Dispatcher

/-- Only commands that wait remove elements. -/
theorem any_removes_filter_isDeferred
    (commands : List Command) :
    (commands.filter fun command => command.action.isDeferred).any Command.removes =
      commands.any Command.removes := by
  rw [List.any_filter]
  congr 1
  funext command
  unfold Command.removes
  cases command.action <;> rfl

namespace Settings

/-- What rendering by a list of active commands makes of an element. -/
def rendered
    (settings : Settings)
    (commands : List Command)
    (element : Element) : Element :=
  (settings.applyAll commands (settings.restore element)).markRemoved
    (commands.any Command.removes)

theorem render_element_of_none
    {settings : Settings}
    {element : Element}
    (uninstructed : element.attribute? settings.attributes.instruction = none)
    (dispatcher : Dispatcher σ)
    (context : Context)
    (state : σ) :
    (settings.render dispatcher context element state).2.1 = element := by
  rw [render, uninstructed]

/-- A host that leaves elements alone has no part in what an element becomes. -/
theorem render_element
    {settings : Settings}
    {element : Element}
    {source : String}
    (instructed : element.attribute? settings.attributes.instruction = some source)
    {dispatcher : Dispatcher σ}
    (leaves : dispatcher.LeavesElements)
    (context : Context)
    (state : σ) :
    (settings.render dispatcher context element state).2.1 =
      settings.rendered (activeCommands context source) element := by
  rw [render, instructed]
  simp only [apply, Staging.takeAll]
  rw [Dispatcher.runAllDeferred_element leaves, Staging.foldl_take_element,
    Staging.foldl_take_waiting, List.nil_append, any_removes_filter_isDeferred]
  rfl

/-- No host has a part in what becomes of an element if no command waits. -/
theorem render_element_of_immediate
    {settings : Settings}
    {element : Element}
    {source : String}
    (instructed : element.attribute? settings.attributes.instruction = some source)
    {context : Context}
    (immediate :
      ∀ command ∈ activeCommands context source, command.action.isDeferred = false)
    (dispatcher : Dispatcher σ)
    (state : σ) :
    (settings.render dispatcher context element state).2.1 =
      settings.applyAll (activeCommands context source) (settings.restore element) := by
  have noneWaits :
      (activeCommands context source).filter (fun command => command.action.isDeferred) =
        [] := by
    rw [List.filter_eq_nil_iff]
    intro command member
    simp [immediate command member]
  have waiting := Staging.foldl_take_waiting settings (prepareEach context source)
    { element := settings.restore element, report := {}, waiting := [] }
  rw [List.nil_append] at waiting
  rw [render, instructed]
  simp only [apply, Staging.takeAll]
  rw [waiting.trans noneWaits, Staging.foldl_take_element]
  rfl

end Settings

end DataBinding
