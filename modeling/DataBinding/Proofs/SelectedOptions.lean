import DataBinding.Proofs.RenderedBody
import DataBinding.Proofs.ScalarTruth
import DataBinding.Proofs.TokenText

namespace DataBinding

/-!
# What a form control shows of a text

The instruction `name =` puts the text at `name` into a form control.  Commands hold
scalars, so a text that reads as a number is compared as the text of that number: the
option `7` is selected for the text `007`, and the option `007` for none.  Every other
text is compared as it is.
-/

/-- The text that a text is compared as in a form control. -/
def comparedText (text : String) : String :=
  match Number.parse? text with
  | some number => number.display
  | none => text

theorem display_toScalar_string
    (text : String) :
    (Value.string text).toScalar.display = comparedText text := by
  cases read : Number.parse? text with
  | none =>
      simp only [Value.toScalar, comparedText, read, Value.display]
  | some number =>
      simp only [Value.toScalar, comparedText, read, Value.display]

/-- A text is compared as it is if it is no numeral, or the text of its own number. -/
theorem comparedText_eq_self_iff
    {text : String} :
    comparedText text = text ↔
      ∀ number, Number.parse? text = some number → number.display = text := by
  unfold comparedText
  cases read : Number.parse? text with
  | none =>
      simp
  | some number =>
      simp

/-!
## The instruction
-/

/-- The tokens of the instruction that puts the value at a path into a form control. -/
def valueTokens (path : String) : List Token :=
  [.name path ⟨0, 0⟩, .operator "=" ⟨0, 0⟩]

/-- The text of that instruction. -/
def valueSource (path : String) : String :=
  Instruction.text ⟨"", ⟨0, 0⟩, valueTokens path⟩

/-- The command of that instruction. -/
def valueCommand
    (context : Context)
    (path : String) : Command :=
  { Command.ofAction .value (context.lookup path).toScalar with path? := some path }

/-- The text of a plain name is the name itself. -/
theorem valueSource_of_plain
    {path : String}
    (plain : ∀ c ∈ path.toList, Lexeme.isSpecial c = false) :
    valueSource path = path ++ " =" := by
  have unescaped : path.toList.flatMap Token.wordChar = path.toList := by
    have single : ∀ c ∈ path.toList, Token.wordChar c = [c] :=
      fun c member => if_neg (Bool.eq_false_iff.mp (plain c member))
    rw [List.flatMap_congr single, List.flatMap_singleton']
  simp [valueSource, Instruction.text, valueTokens, Token.sequenceChars, Token.followingChars,
    Token.chars, Token.isSeparator, unescaped]

theorem command_of_valueTokens
    (context : Context)
    (stop : Nat)
    (path : String)
    (nameSpan operatorSpan : Span) :
    Token.command context stop [.name path nameSpan, .operator "=" operatorSpan] =
      .ok (valueCommand context path) :=
  rfl

/-- What shows as these tokens is these tokens at some places. -/
theorem exists_spans_of_trees
    {path : String}
    {tokens : List Token}
    (shown : Token.trees tokens = valueTokens path) :
    ∃ nameSpan operatorSpan, tokens = [.name path nameSpan, .operator "=" operatorSpan] := by
  match tokens, shown with
  | [], shown =>
      cases shown
  | [_], shown =>
      cases (List.cons.inj shown).2
  | first :: second :: rest, shown =>
      obtain ⟨firstShown, restShown⟩ := List.cons.inj shown
      obtain ⟨secondShown, noneShown⟩ := List.cons.inj restShown
      obtain rfl := Token.trees_eq_nil.mp noneShown
      cases first <;> cases firstShown
      cases second <;> cases secondShown
      exact ⟨_, _, rfl⟩

section Source

variable
  {path : String}
  (named : path ≠ "")
  (trimmed : Text.trim path = path)
  (notNumeral : Number.parse? path = none)

include named trimmed notNumeral

/-- The source reads as one instruction. -/
theorem prepareEach_valueSource
    (context : Context) :
    prepareEach context (valueSource path) = [.ok (valueCommand context path)] := by
  have operatorForm : Lexeme.IsOperator "=" :=
    ⟨by decide, by simp⟩
  have form : (⟨"", ⟨0, 0⟩, valueTokens path⟩ : Instruction).WellFormed := by
    refine ⟨List.cons_ne_nil _ _, ?_, by simp [valueTokens, Token.isSeparator]⟩
    simp only [valueTokens, List.forall_mem_cons, List.not_mem_nil, false_implies,
      implies_true, and_true]
    exact ⟨.name named trimmed notNumeral, .operator operatorForm⟩
  have read :
      (instructions (valueSource path)).map Instruction.trees = [valueTokens path] := by
    have inverse := trees_instructions_joined (List.forall_mem_singleton.mpr form)
    exact inverse
  obtain ⟨⟨source, span, tokens⟩, only, shown⟩ := List.map_eq_singleton_iff.mp read
  obtain ⟨nameSpan, operatorSpan, rfl⟩ := exists_spans_of_trees shown
  rw [prepareEach, only, List.map_singleton, Instruction.command, command_of_valueTokens]
  rfl

/-- The command is in effect where there is a text. -/
theorem activeCommands_valueSource
    {context : Context}
    {text : String}
    (held : context.lookup path = .string text) :
    activeCommands context (valueSource path) = [valueCommand context path] := by
  have notNull : (context.lookup path).toScalar.isNull = false := by
    rw [Value.isNull_toScalar, held]
    rfl
  have active : Staging.isActive (valueCommand context path) = true := by
    simpa [Staging.isActive, valueCommand, Command.ofAction] using notNull
  rw [activeCommands, prepareEach_valueSource named trimmed notNumeral]
  exact List.filter_cons_of_pos active

end Source

/-!
## The form control
-/

namespace Settings

theorem isChecked_toScalar_string
    (attribute? : Option String)
    (text : String) :
    isChecked attribute? (Value.string text).toScalar =
      (attribute? == some (comparedText text)) := by
  rw [← display_toScalar_string]
  cases read : Number.parse? text <;> simp only [Value.toScalar, read, isChecked]

theorem hasAttribute_checked_applyValue
    {command : Command}
    {element : Element}
    (checkable : element.isCheckable = true) :
    (applyValue command element).hasAttribute "checked" =
      isChecked (element.attribute? "value") command.value := by
  unfold applyValue
  dsimp only
  rw [if_pos checkable]
  split
  · rename_i isChecked
    rw [isChecked, Element.hasAttribute, Element.attribute?_setAttribute_self]
    rfl
  · rename_i notChecked
    rw [Bool.eq_false_iff.mpr notChecked, Element.hasAttribute,
      Element.attribute?_removeAttribute_self]
    rfl

theorem applyAll_value
    (settings : Settings)
    {command : Command}
    (isValue : command.action = .value)
    (element : Element) :
    settings.applyAll [command] element = applyValue command element := by
  rw [applyAll, List.foldl_cons, List.foldl_nil, applyImmediate, isValue]

theorem children_applyValue
    {command : Command}
    (isValue : command.action = .value)
    {element : Element}
    (isSelect : element.hasTag "select" = true) :
    (applyValue command element).children =
      element.children.map (selectOption command.value.display) := by
  have sameTag : element.body.hasTag "select" = true :=
    isSelect
  rw [← Element.children_body, body_applyValue isValue, children_bodyAfter, selected?, isValue,
    sameTag]
  rfl

/-- Whether a child is shown as it should be for a text: an option is selected just if
it submits that text, and there is no other change. -/
structure IsMarked
    (wanted : String)
    (child shown : Element) : Prop where
  option :
    child.hasTag "option" = true →
      (shown.hasAttribute "selected" = true ↔
        (child.attribute? "value").getD child.content = wanted)
  other :
    child.hasTag "option" = false → shown = child
  sameBut :
    Element.SameBut "selected" shown child

theorem isMarked_selectOption
    (wanted : String)
    (child : Element) :
    IsMarked wanted child (selectOption wanted child) where
  option isOption := by
    rw [Element.hasAttribute, attribute?_selectOption, if_pos isOption, optionValue]
    split <;> simp_all
  other notOption := by
    rw [selectOption, notOption]
    rfl
  sameBut :=
    selectOption_sameBut wanted child

end Settings

/--
The instruction `name =` shows in a form control the text at the name.  A selection has
those options selected that submit what the text is compared as, and its other children
stay as they are; a check box or radio button is checked just if that is its value.  A
text is compared as it is unless it reads as a number, and otherwise as the text of that
number.
-/
theorem render_selectsText
    {settings : Settings}
    {path : String}
    (named : path ≠ "")
    (trimmed : Text.trim path = path)
    (notNumeral : Number.parse? path = none)
    {context : Context}
    {text : String}
    (held : context.lookup path = .string text)
    {element : Element}
    (instructed :
      element.attribute? settings.attributes.instruction = some (valueSource path))
    (dispatcher : Dispatcher σ)
    (state : σ) :
    let after := (settings.render dispatcher context element state).2.1
    (element.hasTag "select" = true →
        List.Forall₂ (Settings.IsMarked (comparedText text)) element.children after.children) ∧
      (∀ kind ∈ ["checkbox", "radio"],
        (settings.restore element).hasTag "input" = true →
          (settings.restore element).attribute? "type" = some kind →
            (after.hasAttribute "checked" = true ↔
              (settings.restore element).attribute? "value" = some (comparedText text))) ∧
      (comparedText text = text ↔
        ∀ number, Number.parse? text = some number → number.display = text) := by
  intro after
  have active := activeCommands_valueSource named trimmed notNumeral held
  have applied :
      after = Settings.applyValue (valueCommand context path) (settings.restore element) := by
    have immediate :
        ∀ command ∈ activeCommands context (valueSource path),
          command.action.isDeferred = false := by
      rw [active, List.forall_mem_singleton]
      rfl
    have rendered :=
      Settings.render_element_of_immediate instructed immediate dispatcher state
    rw [active, settings.applyAll_value rfl] at rendered
    exact rendered
  have value : (valueCommand context path).value = (Value.string text).toScalar := by
    rw [← held]
    rfl
  refine ⟨fun isSelect => ?_, fun kind isKind isInput hasKind => ?_,
    comparedText_eq_self_iff⟩
  · have restoredSelect : (settings.restore element).hasTag "select" = true := by
      rw [Element.hasTag, settings.tag_restore]
      exact isSelect
    rw [applied, Settings.children_applyValue rfl restoredSelect, settings.children_restore,
      value, display_toScalar_string, List.forall₂_map_right_iff, List.forall₂_same]
    exact fun child _ => Settings.isMarked_selectOption _ child
  · have checkable : (settings.restore element).isCheckable = true := by
      rw [Element.isCheckable, isInput, hasKind]
      simpa using isKind
    rw [applied, Settings.hasAttribute_checked_applyValue checkable, value,
      Settings.isChecked_toScalar_string, beq_iff_eq]

/-- An agent that is chosen by number, with and without leading zeros. -/
def agentSelect : Element where
  tag := "select"
  attributes := .ofList [("z-var", "agent =")]
  children :=
    [{ tag := "option", attributes := .ofList [("value", "007"), ("selected", "selected")] },
      { tag := "OPTION", content := "7" },
      { tag := "hr", content := "7" }]

/-- The data of an agent whose number is a text. -/
def agentContext : Context :=
  .ofData (.object [("agent", .string "007")])

/-- The number is compared without its leading zeros. -/
theorem render_selectsText_agent :
    List.Forall₂ (Settings.IsMarked "7") agentSelect.children
      (Settings.render {} .unattended agentContext agentSelect ()).2.1.children := by
  have compared : comparedText "007" = "7" := by
    decide +kernel
  have instructed :
      agentSelect.attribute? (Settings.attributes {}).instruction =
        some (valueSource "agent") := by
    have plain : "agent".toList.all (fun c => !Lexeme.isSpecial c) := by
      decide
    rw [valueSource_of_plain (by simpa only [List.all_eq_true, Bool.not_eq_true'] using plain)]
    rfl
  obtain ⟨selects, -, -⟩ :=
    render_selectsText (by decide) (by decide) (by decide)
      (rfl : agentContext.lookup "agent" = .string "007") instructed Dispatcher.unattended ()
  rw [compared] at selects
  exact selects (by decide)

/-- The option that submits the text itself is not selected, and the one that submits
the number is. -/
theorem render_selectsText_notItself :
    let after := (Settings.render {} .unattended agentContext agentSelect ()).2.1
    agentContext.lookup "agent" = .string "007" ∧
      agentSelect.children.map Settings.optionValue = ["007", "7", "7"] ∧
        after.children.map (fun child => child.hasAttribute "selected") =
          [false, true, false] := by
  refine ⟨rfl, rfl, ?_⟩
  decide +kernel

end DataBinding
