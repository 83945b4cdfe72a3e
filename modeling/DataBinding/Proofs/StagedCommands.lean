import DataBinding.Proofs.Staging
import Mathlib.Data.List.Basic

namespace DataBinding

/-!
# The stages of a render

A render makes all immediate changes before the first command that waits is
carried out, and commands without an effect might as well not be there.  What
the host is asked, and in which order, is read off a dispatcher that keeps a log;
keeping it changes nothing of what the host does.
-/

/-- What an event or a call asks of the host. -/
inductive DispatchRequest where
  | event (name : String) (detail : Detail)
  | call (name : String) (detail : Detail)
  deriving Repr

/-- A request as it reaches the host, with the element at that moment. -/
structure DispatchCall where
  request : DispatchRequest
  element : Element
  deriving Repr

/-- The state of a host, and the calls that have reached it. -/
structure DispatchLog (σ : Type) where
  calls : List DispatchCall
  host : σ

/-- What a command asks of the host, if it is an event or a call. -/
def Command.request?
    (command : Command)
    (context : Context) : Option DispatchRequest :=
  match command.action with
  | .event => command.parameter?.map fun name => .event name (command.detail context)
  | .call => some (.call (command.parameter?.getD "") (command.detail context))
  | _ => none

namespace Dispatcher

/-- A dispatcher that does what another does and keeps a log of it. -/
def logged (dispatcher : Dispatcher σ) : Dispatcher (DispatchLog σ) where
  fire element name detail log :=
    let (outcome, host) := dispatcher.fire element name detail log.host
    (outcome, ⟨log.calls ++ [⟨.event name detail, element⟩], host⟩)
  invoke element name detail log :=
    let (outcome, changed, host) := dispatcher.invoke element name detail log.host
    (outcome, changed, ⟨log.calls ++ [⟨.call name detail, element⟩], host⟩)

/-- An element that removals and calls of the host can make of another. -/
inductive LeadsTo
    (dispatcher : Dispatcher σ)
    (start : Element) : Element → Prop where
  | start :
      LeadsTo dispatcher start start
  | removal
      {element : Element}
      (reached : LeadsTo dispatcher start element)
      (removed : Bool) :
      LeadsTo dispatcher start (element.markRemoved removed)
  | call
      {element : Element}
      (reached : LeadsTo dispatcher start element)
      (name : String)
      (detail : Detail)
      (state : σ) :
      LeadsTo dispatcher start (dispatcher.invoke element name detail state).2.1

/-!
## The log of the commands that wait
-/

section DeferredCommands

variable
  (dispatcher : Dispatcher σ)
  (context : Context)

/-- The log grows by the request of the command, and nothing else differs. -/
theorem runDeferred_logged
    (command : Command)
    (element : Element)
    (log : DispatchLog σ) :
    dispatcher.logged.runDeferred context command element log =
      let (outcome, changed, host) :=
        dispatcher.runDeferred context command element log.host
      (outcome, changed,
        ⟨log.calls ++ (command.request? context).toList.map (DispatchCall.mk · element),
          host⟩) := by
  unfold runDeferred Command.request?
  cases command.action with
  | event =>
      cases command.parameter? <;> simp [logged]
  | _ =>
      simp [logged]

theorem leadsTo_runDeferred
    {start element : Element}
    (reached : dispatcher.LeadsTo start element)
    (command : Command)
    (state : σ) :
    dispatcher.LeadsTo start
      (dispatcher.runDeferred context command element state).2.1 := by
  unfold runDeferred
  cases command.action with
  | remove =>
      exact reached.removal command.isTruthy
  | event =>
      cases command.parameter? <;> exact reached
  | call =>
      exact reached.call _ _ _
  | _ =>
      exact reached

/-- The calls that some commands make of the host, in order. -/
def callsOf
    (element : Element)
    (state : σ) :
    List Command → List DispatchCall
  | [] => []
  | command :: rest =>
      let (_, changed, host) := dispatcher.runDeferred context command element state
      (command.request? context).toList.map (DispatchCall.mk · element) ++
        callsOf changed host rest

theorem runAllDeferred_logged
    (commands : List Command)
    (element : Element)
    (log : DispatchLog σ) :
    dispatcher.logged.runAllDeferred context element log commands =
      let (errors, changed, host) :=
        dispatcher.runAllDeferred context element log.host commands
      (errors, changed,
        ⟨log.calls ++ dispatcher.callsOf context element log.host commands, host⟩) := by
  induction commands generalizing element log with
  | nil =>
      simp [runAllDeferred, callsOf]
  | cons command commands inductionHypothesis =>
      simp only [runAllDeferred, runDeferred_logged, inductionHypothesis, callsOf,
        List.append_assoc]
      split <;> rfl

/-- Which requests are made depends on the commands alone, not on what the host
answers or makes of the element. -/
theorem map_request_callsOf
    (commands : List Command)
    (element : Element)
    (state : σ) :
    (dispatcher.callsOf context element state commands).map DispatchCall.request =
      commands.filterMap (Command.request? · context) := by
  induction commands generalizing element state with
  | nil =>
      rfl
  | cons command commands inductionHypothesis =>
      rw [callsOf, List.map_append, inductionHypothesis, List.filterMap_cons]
      cases command.request? context <;> rfl

/-- Every call finds an element that the commands before it have led to. -/
theorem leadsTo_of_mem_callsOf
    {start element : Element}
    (reached : dispatcher.LeadsTo start element)
    {commands : List Command}
    {state : σ}
    {call : DispatchCall}
    (made : call ∈ dispatcher.callsOf context element state commands) :
    dispatcher.LeadsTo start call.element := by
  induction commands generalizing element state with
  | nil =>
      cases made
  | cons command commands inductionHypothesis =>
      rw [callsOf, List.mem_append, List.mem_map] at made
      rcases made with ⟨request, _, isCall⟩ | later
      · rw [← isCall]
        exact reached
      · exact inductionHypothesis
          (dispatcher.leadsTo_runDeferred context reached command state) later

end DeferredCommands

end Dispatcher

/-!
## The two stages
-/

/-- Whether a command waits: it is a removal, an event or a call. -/
def Command.Waits (command : Command) : Prop :=
  command.action = .remove ∨ command.action = .event ∨ command.action = .call

instance (command : Command) : Decidable command.Waits :=
  inferInstanceAs
    (Decidable
      (command.action = .remove ∨ command.action = .event ∨ command.action = .call))

theorem Command.isDeferred_action
    (command : Command) :
    command.action.isDeferred = decide command.Waits := by
  cases action : command.action <;> simp [Waits, action, Action.isDeferred]

/-- The commands among some outcomes that have any effect: the condition holds and the
value is not null. -/
def effectiveCommands (outcomes : List (Except ParseError Command)) : List Command :=
  (commandsOf outcomes).filter fun command => command.condition && !command.value.isNull

theorem effectiveCommands_eq_filter
    (outcomes : List (Except ParseError Command)) :
    effectiveCommands outcomes = (commandsOf outcomes).filter Staging.isActive :=
  rfl

/-- The commands that are carried out at once. -/
def immediateCommands (commands : List Command) : List Command :=
  commands.filter fun command => ¬command.Waits

/-- The commands that wait. -/
def deferredCommands (commands : List Command) : List Command :=
  commands.filter fun command => command.Waits

/-- Some commands in the order in which they take effect. -/
def stagedCommands (commands : List Command) : List Command :=
  immediateCommands commands ++ deferredCommands commands

section Stages

variable (commands : List Command)

@[simp]
theorem immediateCommands_stagedCommands :
    immediateCommands (stagedCommands commands) = immediateCommands commands := by
  simp [immediateCommands, stagedCommands, deferredCommands, List.filter_filter]

@[simp]
theorem deferredCommands_stagedCommands :
    deferredCommands (stagedCommands commands) = deferredCommands commands := by
  simp [immediateCommands, stagedCommands, deferredCommands, List.filter_filter]

@[simp]
theorem stagedCommands_stagedCommands :
    stagedCommands (stagedCommands commands) = stagedCommands commands := by
  rw [stagedCommands, immediateCommands_stagedCommands, deferredCommands_stagedCommands]
  rfl

@[simp]
theorem length_stagedCommands :
    (stagedCommands commands).length = commands.length := by
  simp only [stagedCommands, immediateCommands, deferredCommands, List.length_append,
    decide_not, Nat.add_comm]
  exact (List.length_eq_length_filter_add _).symm

@[simp]
theorem commandsOf_map_ok :
    commandsOf (commands.map .ok) = commands := by
  simp [commandsOf, Function.comp_def, Except.toOption]

@[simp]
theorem effectiveCommands_staged
    (outcomes : List (Except ParseError Command)) :
    effectiveCommands ((stagedCommands (effectiveCommands outcomes)).map .ok) =
      stagedCommands (effectiveCommands outcomes) := by
  rw [effectiveCommands, commandsOf_map_ok, List.filter_eq_self]
  intro command member
  have effective : command ∈ effectiveCommands outcomes := by
    rcases List.mem_append.mp member with immediate | deferred
    · exact List.mem_of_mem_filter immediate
    · exact List.mem_of_mem_filter deferred
  exact (List.mem_filter.mp effective).2

theorem effectiveCommands_of_inert
    {outcome : Except ParseError Command}
    (inert :
      ∀ command, outcome = .ok command → command.condition = false ∨ command.value = .null) :
    effectiveCommands [outcome] = [] := by
  cases outcome with
  | error error =>
      rfl
  | ok command =>
      rcases inert command rfl with noCondition | isNull
      · simp [effectiveCommands, commandsOf, Except.toOption, noCondition]
      · simp [effectiveCommands, commandsOf, Except.toOption, isNull, Value.isNull]

theorem effectiveCommands_append
    (outcomes further : List (Except ParseError Command)) :
    effectiveCommands (outcomes ++ further) =
      effectiveCommands outcomes ++ effectiveCommands further := by
  simp [effectiveCommands, commandsOf]

/-- Only commands that wait ask anything of the host. -/
theorem filterMap_request?_deferredCommands
    (context : Context) :
    (deferredCommands commands).filterMap (Command.request? · context) =
      commands.filterMap (Command.request? · context) := by
  rw [deferredCommands, List.filterMap_filter]
  congr 1
  funext command
  unfold Command.request?
  cases action : command.action <;> simp [Command.Waits, action]

end Stages

/-- Deferred commands play no part in the immediate changes. -/
theorem Settings.applyAll_immediateCommands
    (settings : Settings)
    (commands : List Command)
    (element : Element) :
    settings.applyAll (immediateCommands commands) element =
      settings.applyAll commands element := by
  induction commands generalizing element with
  | nil =>
      rfl
  | cons command commands inductionHypothesis =>
      by_cases waits : command.Waits
      · have deferred : command.action.isDeferred = true := by
          rw [command.isDeferred_action, decide_eq_true waits]
        have unchanged := settings.applyImmediate_of_isDeferred deferred element
        simpa [immediateCommands, applyAll, waits, unchanged] using
          inductionHypothesis element
      · simpa [immediateCommands, applyAll, waits] using
          inductionHypothesis (settings.applyImmediate command element)

namespace Staging

/-- The report on some outcomes, before anything that waits is carried out. -/
def reportOn (outcomes : List (Except ParseError Command)) : RenderReport where
  applied := (effectiveCommands outcomes).length
  skipped := ((commandsOf outcomes).filter fun command => !isActive command).length
  errors := errorsOf outcomes

theorem errorsOf_cons
    (outcome : Except ParseError Command)
    (outcomes : List (Except ParseError Command)) :
    errorsOf (outcome :: outcomes) = errorsOf [outcome] ++ errorsOf outcomes := by
  cases outcome <;> rfl

theorem effectiveCommands_cons
    (outcome : Except ParseError Command)
    (outcomes : List (Except ParseError Command)) :
    effectiveCommands (outcome :: outcomes) =
      effectiveCommands [outcome] ++ effectiveCommands outcomes :=
  effectiveCommands_append [outcome] outcomes

/-- The report adds up, outcome by outcome. -/
theorem reportOn_cons
    (outcome : Except ParseError Command)
    (outcomes : List (Except ParseError Command)) :
    reportOn (outcome :: outcomes) =
      { applied := (reportOn [outcome]).applied + (reportOn outcomes).applied
        skipped := (reportOn [outcome]).skipped + (reportOn outcomes).skipped
        errors := (reportOn [outcome]).errors ++ (reportOn outcomes).errors } := by
  simp only [reportOn, effectiveCommands_cons outcome outcomes,
    commandsOf_cons outcome outcomes, commandsOf_cons outcome [],
    errorsOf_cons outcome outcomes, List.filter_append, List.length_append]
  rfl

theorem take_report
    (settings : Settings)
    (staging : Staging)
    (outcome : Except ParseError Command) :
    (staging.take settings outcome).report =
      { applied := staging.report.applied + (reportOn [outcome]).applied
        skipped := staging.report.skipped + (reportOn [outcome]).skipped
        errors := staging.report.errors ++ (reportOn [outcome]).errors
        dispatchErrors := staging.report.dispatchErrors } := by
  cases outcome with
  | error error =>
      simp [take, reportOn, effectiveCommands_eq_filter, commandsOf, errorsOf, Except.toOption]
  | ok command =>
      by_cases active : isActive command = true
      · by_cases deferred : command.action.isDeferred = true <;>
          simp [take, reportOn, effectiveCommands_eq_filter, commandsOf, errorsOf, Except.toOption,
            active, deferred]
      · simp [take, reportOn, effectiveCommands_eq_filter, commandsOf, errorsOf, Except.toOption,
          active]

theorem foldl_take_report
    (settings : Settings)
    (outcomes : List (Except ParseError Command))
    (staging : Staging) :
    (outcomes.foldl (take settings) staging).report =
      { applied := staging.report.applied + (reportOn outcomes).applied
        skipped := staging.report.skipped + (reportOn outcomes).skipped
        errors := staging.report.errors ++ (reportOn outcomes).errors
        dispatchErrors := staging.report.dispatchErrors } := by
  induction outcomes generalizing staging with
  | nil =>
      simp [reportOn, effectiveCommands, commandsOf, errorsOf]
  | cons outcome outcomes inductionHypothesis =>
      rw [List.foldl_cons, inductionHypothesis, take_report, reportOn_cons outcome outcomes]
      simp only [Nat.add_assoc, List.append_assoc]

/-- Every outcome counts once. -/
theorem accounted_reportOn
    (outcomes : List (Except ParseError Command)) :
    (reportOn outcomes).applied + (reportOn outcomes).skipped +
        (reportOn outcomes).errors.length =
      outcomes.length := by
  induction outcomes with
  | nil =>
      rfl
  | cons outcome outcomes inductionHypothesis =>
      have counted :
          (reportOn [outcome]).applied + (reportOn [outcome]).skipped +
            (reportOn [outcome]).errors.length = 1 := by
        cases outcome with
        | error error =>
            rfl
        | ok command =>
            cases active : isActive command <;>
              simp [reportOn, effectiveCommands_eq_filter, commandsOf, errorsOf, Except.toOption,
                active]
      simp only [reportOn_cons outcome outcomes, List.length_append, List.length_cons]
      omega

end Staging

/-- A render half way is known from the outcomes: the commands that have an effect
decide the element and what waits. -/
theorem Settings.apply_eq
    (settings : Settings)
    (dispatcher : Dispatcher σ)
    (context : Context)
    (outcomes : List (Except ParseError Command))
    (element : Element)
    (state : σ) :
    settings.apply dispatcher context outcomes element state =
      let changed :=
        settings.applyAll (immediateCommands (effectiveCommands outcomes))
          (settings.restore element)
      let ran :=
        dispatcher.runAllDeferred context changed state
          (deferredCommands (effectiveCommands outcomes))
      ({ Staging.reportOn outcomes with dispatchErrors := ran.1 }, ran.2) := by
  simp only [apply, Staging.takeAll, Staging.foldl_take_element,
    Staging.foldl_take_waiting, Staging.foldl_take_report, List.nil_append, Nat.zero_add,
    applyAll_immediateCommands, Command.isDeferred_action]
  rfl

/-- Two renders that come to the same: the element, the state of the host, how many
commands were applied and what went wrong in the host. -/
structure SameEffect
    (first second : RenderReport × Element × σ) : Prop where
  element : first.2.1 = second.2.1
  host : first.2.2 = second.2.2
  applied : first.1.applied = second.1.applied
  dispatchErrors : first.1.dispatchErrors = second.1.dispatchErrors

/-- The commands that have an effect decide what a render comes to, up to the
relative order of those that are carried out at once and those that wait. -/
theorem Settings.sameEffect_apply
    (settings : Settings)
    (dispatcher : Dispatcher σ)
    (context : Context)
    {first second : List (Except ParseError Command)}
    (sameStages :
      stagedCommands (effectiveCommands first) = stagedCommands (effectiveCommands second))
    (element : Element)
    (state : σ) :
    SameEffect
      (settings.apply dispatcher context first element state)
      (settings.apply dispatcher context second element state) := by
  have immediate :
      immediateCommands (effectiveCommands first) =
        immediateCommands (effectiveCommands second) := by
    rw [← immediateCommands_stagedCommands, sameStages, immediateCommands_stagedCommands]
  have deferred :
      deferredCommands (effectiveCommands first) =
        deferredCommands (effectiveCommands second) := by
    rw [← deferredCommands_stagedCommands, sameStages, deferredCommands_stagedCommands]
  have number :
      (effectiveCommands first).length = (effectiveCommands second).length := by
    rw [← length_stagedCommands, sameStages, length_stagedCommands]
  simp only [apply_eq, immediate, deferred]
  exact ⟨rfl, rfl, number, rfl⟩

/-- How applying the outcomes of instructions is staged. -/
structure StagedRun
    (settings : Settings)
    (dispatcher : Dispatcher σ)
    (context : Context)
    (outcomes : List (Except ParseError Command))
    (element : Element)
    (state : σ) : Prop where
  /-- The effective commands that are carried out at once are applied to the restored
  element, and those that wait are carried out on what comes of it. -/
  inStages :
    let applied := settings.apply dispatcher context outcomes element state
    let effective := effectiveCommands outcomes
    (applied.1.dispatchErrors, applied.2) =
      dispatcher.runAllDeferred context
        (settings.applyAll (immediateCommands effective) (settings.restore element))
        state (deferredCommands effective)
  /-- Keeping a log changes nothing of the run. -/
  logPassive :
    let logged := settings.apply dispatcher.logged context outcomes element ⟨[], state⟩
    settings.apply dispatcher context outcomes element state =
      (logged.1, logged.2.1, logged.2.2.host)
  /-- The effective commands alone, those that wait behind the others, come to the
  same: the element, the calls of the host, the state of the host, the number of
  applied commands and the errors of the host. -/
  sameAsStaged :
    SameEffect
      (settings.apply dispatcher.logged context outcomes element ⟨[], state⟩)
      (settings.apply dispatcher.logged context
        ((stagedCommands (effectiveCommands outcomes)).map .ok) element ⟨[], state⟩)
  /-- The host is asked what the effective events and calls ask, in their order. -/
  requests :
    (settings.apply dispatcher.logged context outcomes element ⟨[], state⟩).2.2.calls.map
        DispatchCall.request =
      (effectiveCommands outcomes).filterMap (Command.request? · context)
  /-- Every call finds the element with all immediate changes made, and with nothing
  else than what removals and calls before it have made of that. -/
  immediateFirst :
    ∀ call ∈
        (settings.apply dispatcher.logged context outcomes element ⟨[], state⟩).2.2.calls,
      dispatcher.LeadsTo
        (settings.applyAll (immediateCommands (effectiveCommands outcomes))
          (settings.restore element))
        call.element
  errors :
    (settings.apply dispatcher context outcomes element state).1.errors = errorsOf outcomes
  applied :
    (settings.apply dispatcher context outcomes element state).1.applied =
      (effectiveCommands outcomes).length
  /-- Every outcome is applied, skipped or an error. -/
  accounted :
    let report := (settings.apply dispatcher context outcomes element state).1
    report.applied + report.skipped + report.errors.length = outcomes.length
  /-- An error, a false condition or a null value can be left out. -/
  inertLeftOut :
    ∀ (before : List (Except ParseError Command))
      (inert : Except ParseError Command)
      (after : List (Except ParseError Command)),
      outcomes = before ++ inert :: after →
      (∀ command, inert = .ok command → command.condition = false ∨ command.value = .null) →
      SameEffect
        (settings.apply dispatcher.logged context outcomes element ⟨[], state⟩)
        (settings.apply dispatcher.logged context (before ++ after) element ⟨[], state⟩)

/-- Every render is staged, whatever the host does. -/
theorem stagedRun
    (settings : Settings)
    (dispatcher : Dispatcher σ)
    (context : Context)
    (outcomes : List (Except ParseError Command))
    (element : Element)
    (state : σ) :
    StagedRun settings dispatcher context outcomes element state where
  inStages := by
    rw [Settings.apply_eq]
  logPassive := by
    simp only [Settings.apply_eq, Dispatcher.runAllDeferred_logged]
  sameAsStaged := by
    apply settings.sameEffect_apply
    rw [effectiveCommands_staged, stagedCommands_stagedCommands]
  requests := by
    simp only [Settings.apply_eq, Dispatcher.runAllDeferred_logged, List.nil_append,
      Dispatcher.map_request_callsOf, filterMap_request?_deferredCommands]
  immediateFirst := by
    simp only [Settings.apply_eq, Dispatcher.runAllDeferred_logged, List.nil_append]
    intro call made
    exact dispatcher.leadsTo_of_mem_callsOf context .start made
  errors := by
    rw [Settings.apply_eq]
    rfl
  applied := by
    rw [Settings.apply_eq]
    rfl
  accounted := by
    simpa only [Settings.apply_eq] using Staging.accounted_reportOn outcomes
  inertLeftOut := by
    intro before inert after split isInert
    apply settings.sameEffect_apply
    rw [split, effectiveCommands_append, Staging.effectiveCommands_cons,
      effectiveCommands_of_inert isInert, List.nil_append, effectiveCommands_append]

end DataBinding
