import DataBinding.Proofs.CommandReach

namespace DataBinding

/-!
# Attributes as places of templates

A list of commands acts on each free attribute as a list of changes of one place,
which the commands decide together with the kind of form control that the element
is.
-/

/-- What decides how a form value is put into an element. -/
structure FormControl where
  isCheckable : Bool
  isSelect : Bool
  isTextarea : Bool
  /-- What a check box stands for. -/
  value? : Option String
  deriving Repr, DecidableEq

/-- The form control that an element is. -/
def Element.formControl (element : Element) : FormControl where
  isCheckable := element.isCheckable
  isSelect := element.hasTag "select"
  isTextarea := element.hasTag "textarea"
  value? := if element.isCheckable then element.attribute? "value" else none

namespace Settings

/-- An attribute with the backup of it. -/
def attributeSlot
    (settings : Settings)
    (name : String)
    (element : Element) : TemplateSlot where
  shown? := element.attribute? name
  kept? := element.attribute? (settings.backupAttribute (some name))

/-- What a command for an attribute does to it. -/
def attributeChange
    (name : String)
    (command : Command) : SlotChange :=
  match command.value with
  | .bool true => .put (some name)
  | .bool false => .put none
  | value => .fill value.display command.path? (some name)

/-- What a form value does to an attribute. -/
def valueChanges
    (control : FormControl)
    (value : Value)
    (name : String) : List SlotChange :=
  if control.isCheckable then
    if name = "checked" then
      [.put (if isChecked control.value? value then some "checked" else none)]
    else
      []
  else if control.isSelect || control.isTextarea then
    []
  else if name = "value" then
    [.put (some value.display)]
  else
    []

/-- What a command does to an attribute. -/
def attributeChanges
    (control : FormControl)
    (name : String)
    (command : Command) : List SlotChange :=
  match command.action with
  | .attr => if command.parameter? = some name then [attributeChange name command] else []
  | .value => valueChanges control command.value name
  | _ => []

theorem attributeSlot_restore
    {settings : Settings}
    {element : Element}
    (backups : settings.BackupsFree element)
    {name : String}
    (notClass : name ≠ Element.classAttribute)
    (named : name ≠ "") :
    settings.attributeSlot name (settings.restore element) =
      (settings.attributeSlot name element).restore := by
  have backupNotClass :
      settings.backupAttribute (some name) ≠ Element.classAttribute :=
    settings.backupAttribute_ne (by decide) name
  have backupNotFree : ¬settings.IsFree (settings.backupAttribute (some name)) :=
    fun free => free.ne_backupAttribute (some name) rfl
  ext1
  · exact (settings.attribute?_restore element notClass).trans (by rw [if_neg named]; rfl)
  · exact backups.attribute?_restore backupNotClass backupNotFree

theorem attributeSlot_applyAttribute
    (settings : Settings)
    {name : String}
    (free : settings.IsFree name)
    (command : Command)
    (element : Element) :
    settings.attributeSlot name (settings.applyAttribute command name element) =
      (settings.attributeSlot name element).change (attributeChange name command) := by
  have notBackup : settings.backupAttribute (some name) ≠ name :=
    (free.ne_backupAttribute (some name)).symm
  unfold applyAttribute attributeChange
  cases command.value with
  | bool present =>
      cases present with
      | true =>
          ext1
          · exact element.attribute?_setAttribute_self name name
          · exact element.attribute?_setAttribute_of_ne notBackup name
      | false =>
          ext1
          · exact element.attribute?_removeAttribute_self name
          · exact element.attribute?_removeAttribute_of_ne notBackup
  | _ =>
      ext1
      · exact Element.attribute?_setAttribute_self _ name _
      · exact (Element.attribute?_setAttribute_of_ne _ notBackup _).trans
          (settings.attribute?_backUp (some name) _ _ element)

theorem attribute?_applyValue
    (command : Command)
    (element : Element)
    {slot : TemplateSlot}
    {name : String}
    (shown : slot.shown? = element.attribute? name) :
    (applyValue command element).attribute? name =
      (slot.run (valueChanges element.formControl command.value name)).shown? := by
  unfold applyValue valueChanges Element.formControl
  dsimp only
  by_cases checkable : element.isCheckable = true
  · simp only [checkable, ↓reduceIte]
    by_cases isChecked : name = "checked"
    · subst isChecked
      simp only [↓reduceIte]
      split
      · exact element.attribute?_setAttribute_self _ _
      · exact element.attribute?_removeAttribute_self _
    · simp only [isChecked, ↓reduceIte]
      split
      · exact (element.attribute?_setAttribute_of_ne isChecked _).trans shown.symm
      · exact (element.attribute?_removeAttribute_of_ne isChecked).trans shown.symm
  · simp only [checkable, Bool.false_eq_true, ↓reduceIte]
    by_cases isSelect : element.hasTag "select" = true
    · simp only [isSelect, Bool.true_or, ↓reduceIte]
      exact shown.symm
    · by_cases isTextarea : element.hasTag "textarea" = true
      · simp only [isSelect, isTextarea, Bool.or_true, ↓reduceIte]
        exact shown.symm
      · simp only [isSelect, isTextarea, Bool.false_eq_true, Bool.or_self, ↓reduceIte]
        by_cases isValue : name = "value"
        · subst isValue
          exact element.attribute?_setAttribute_self _ _
        · simp only [isValue, ↓reduceIte]
          exact (element.attribute?_setAttribute_of_ne isValue _).trans shown.symm

theorem kept?_run_valueChanges
    (control : FormControl)
    (value : Value)
    (name : String)
    (slot : TemplateSlot) :
    (slot.run (valueChanges control value name)).kept? = slot.kept? := by
  unfold valueChanges
  split
  · split <;> rfl
  · split
    · rfl
    · split <;> rfl

theorem IsFree.not_mem_reached
    {settings : Settings}
    {name : String}
    (free : settings.IsFree name)
    (notClass : name ≠ Element.classAttribute)
    {command : Command}
    (notWritten : ¬(command.action = .attr ∧ command.parameter? = some name))
    (notValue : command.action = .value → name ∉ ["checked", "value"]) :
    name ∉ settings.reached command := by
  unfold reached
  cases action : command.action with
  | attr =>
      cases parameter : command.parameter? with
      | none =>
          simp
      | some written =>
          have different : name ≠ written := by
            rintro rfl
            exact notWritten ⟨action, parameter⟩
          simpa using ⟨different, free.ne_backupAttribute (some written)⟩
  | text =>
      simpa using free.ne_backupAttribute none
  | value =>
      exact notValue action
  | classes =>
      simpa using notClass
  | toggle =>
      simpa using notClass
  | _ =>
      simp

/-- A command acts on a free attribute as its changes do. -/
theorem attributeSlot_applyImmediate
    {settings : Settings}
    {command : Command}
    (writesFree : settings.WritesFree command)
    {name : String}
    (free : settings.IsFree name)
    (notClass : name ≠ Element.classAttribute)
    {control : FormControl}
    {element : Element}
    (controls : command.action = .value → element.formControl = control) :
    settings.attributeSlot name (settings.applyImmediate command element) =
      (settings.attributeSlot name element).run (attributeChanges control name command) := by
  by_cases written : command.action = .attr ∧ command.parameter? = some name
  · simp only [applyImmediate, attributeChanges, written, ↓reduceIte]
    exact settings.attributeSlot_applyAttribute free command element
  · have keptSame := settings.attribute?_applyImmediate command
      (writesFree.backup_not_mem_reached written) element
    by_cases isValue : command.action = .value
    · simp only [attributeChanges, isValue, ← controls isValue]
      ext1
      · simp only [applyImmediate, isValue]
        exact attribute?_applyValue command element rfl
      · rw [kept?_run_valueChanges]
        exact keptSame
    · have notReached : name ∉ settings.reached command :=
        free.not_mem_reached notClass written fun action => absurd action isValue
      have nothing : attributeChanges control name command = [] := by
        unfold attributeChanges
        split <;> simp_all
      rw [nothing]
      ext1
      · exact settings.attribute?_applyImmediate command notReached element
      · exact keptSame

/-!
## Form controls
-/

/-- Whether a command writes an attribute that decides how form values are put into
an element. -/
def WritesControl (command : Command) : Prop :=
  command.action = .attr ∧
    (command.parameter? = some "type" ∨ command.parameter? = some "value")

instance (command : Command) : Decidable (WritesControl command) :=
  inferInstanceAs (Decidable (_ ∧ _))

section Controls

variable
  {settings : Settings}
  (freeType : settings.IsFree "type")
  (freeValue : settings.IsFree "value")

include freeType freeValue

/-- An element stays the form control that it is. -/
theorem formControl_applyImmediate
    {command : Command}
    (noControl : ¬WritesControl command)
    (element : Element) :
    (settings.applyImmediate command element).formControl = element.formControl := by
  have sameType :
      (settings.applyImmediate command element).attribute? "type" =
        element.attribute? "type" := by
    refine settings.attribute?_applyImmediate command ?_ element
    refine freeType.not_mem_reached (by decide) ?_ fun _ => by decide
    exact fun written => noControl ⟨written.1, Or.inl written.2⟩
  have sameTag := settings.hasTag_applyImmediate command element
  have sameCheckable :
      (settings.applyImmediate command element).isCheckable = element.isCheckable := by
    rw [Element.isCheckable, sameTag, sameType, Element.isCheckable]
  have sameValue :
      element.isCheckable = true →
        (settings.applyImmediate command element).attribute? "value" =
          element.attribute? "value" := by
    intro checkable
    by_cases isValue : command.action = .value
    · have changed :
          (applyValue command element).attribute? "value" =
            ((settings.attributeSlot "value" element).run
              (valueChanges element.formControl command.value "value")).shown? :=
        attribute?_applyValue command element rfl
      have nothing : valueChanges element.formControl command.value "value" = [] := by
        simp [valueChanges, Element.formControl, checkable]
      rw [nothing] at changed
      simp only [applyImmediate, isValue]
      exact changed
    · refine settings.attribute?_applyImmediate command ?_ element
      refine freeValue.not_mem_reached (by decide) ?_ fun action => absurd action isValue
      exact fun written => noControl ⟨written.1, Or.inr written.2⟩
  unfold Element.formControl
  rw [sameCheckable, sameTag, sameTag]
  split
  · rename_i checkable
    rw [sameValue checkable]
  · rfl

theorem formControl_applyAll
    {commands : List Command}
    (noControl : ∀ command ∈ commands, ¬WritesControl command)
    (element : Element) :
    (settings.applyAll commands element).formControl = element.formControl := by
  induction commands generalizing element with
  | nil =>
      rfl
  | cons command commands inductionHypothesis =>
      obtain ⟨noControlFirst, noControlRest⟩ := List.forall_mem_cons.mp noControl
      rw [applyAll, List.foldl_cons, ← applyAll, inductionHypothesis noControlRest,
        formControl_applyImmediate freeType freeValue noControlFirst]

/-- Commands act on a free attribute as all their changes do, if the form control
that the element is in the end is known before the first form value. -/
theorem attributeSlot_applyAll
    {commands : List Command}
    (writeFree : ∀ command ∈ commands, settings.WritesFree command)
    (controlsFirst :
      commands.Pairwise fun earlier later => earlier.action = .value → ¬WritesControl later)
    {name : String}
    (free : settings.IsFree name)
    (notClass : name ≠ Element.classAttribute)
    (element : Element) :
    settings.attributeSlot name (settings.applyAll commands element) =
      (settings.attributeSlot name element).run
        (commands.flatMap
          (attributeChanges (settings.applyAll commands element).formControl name)) := by
  induction commands generalizing element with
  | nil =>
      rfl
  | cons command commands inductionHypothesis =>
      obtain ⟨writesFree, restWriteFree⟩ := List.forall_mem_cons.mp writeFree
      obtain ⟨controlsBefore, restControlsFirst⟩ := List.pairwise_cons.mp controlsFirst
      have later :
          settings.applyAll (command :: commands) element =
            settings.applyAll commands (settings.applyImmediate command element) :=
        rfl
      have controls :
          command.action = .value →
            element.formControl =
              (settings.applyAll (command :: commands) element).formControl := by
        intro isValue
        have noControl : ¬WritesControl command := by
          rintro ⟨isAttr, _⟩
          exact nomatch isValue.symm.trans isAttr
        rw [later, formControl_applyAll freeType freeValue
            fun other member => controlsBefore other member isValue,
          formControl_applyImmediate freeType freeValue noControl]
      rw [List.flatMap_cons, TemplateSlot.run_append,
        ← attributeSlot_applyImmediate writesFree free notClass controls, later]
      exact inductionHypothesis restWriteFree restControlsFirst _

end Controls

end Settings

end DataBinding
