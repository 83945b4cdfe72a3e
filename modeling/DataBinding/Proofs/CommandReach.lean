import DataBinding.Proofs.Restoration
import DataBinding.Proofs.Staging
import DataBinding.Proofs.TemplateSlot

namespace DataBinding

/-!
# How far commands reach

A command reaches a few attributes, which its action and parameter tell.  What it
makes of the text depends only on the text and the backup of the text, so that a
list of commands acts on the text as a list of changes of one place.
-/

namespace Settings

/-- The attributes that a command may change. -/
def reached
    (settings : Settings)
    (command : Command) : List String :=
  match command.action with
  | .attr =>
      match command.parameter? with
      | some name => [name, settings.backupAttribute (some name)]
      | none => []
  | .text => [settings.backupAttribute none]
  | .value => ["checked", "value"]
  | .classes => [Element.classAttribute]
  | .toggle => [Element.classAttribute]
  | _ => []

theorem attribute?_backUp_of_ne
    (settings : Settings)
    {name : String}
    {attribute? : Option String}
    (different : name ≠ settings.backupAttribute attribute?)
    (template result : String)
    (element : Element) :
    (settings.backUp attribute? template result element).attribute? name =
      element.attribute? name := by
  unfold backUp
  dsimp only
  split
  · exact element.attribute?_setAttribute_of_ne different template
  · rfl

/-- A template is kept when it is filled for the first time. -/
theorem attribute?_backUp
    (settings : Settings)
    (attribute? : Option String)
    (template result : String)
    (element : Element) :
    (settings.backUp attribute? template result element).attribute?
        (settings.backupAttribute attribute?) =
      if template ≠ result ∧ template ≠ "" ∧ Placeholder.isTemplate template = true ∧
          element.attribute? (settings.backupAttribute attribute?) = none then
        some template
      else
        element.attribute? (settings.backupAttribute attribute?) := by
  unfold backUp
  simp only [Element.hasAttribute, Option.isSome_eq_false_iff, Option.isNone_iff_eq_none]
  split
  · exact element.attribute?_setAttribute_self _ template
  · rfl

theorem body_backUp
    (settings : Settings)
    (attribute? : Option String)
    (template result : String)
    (element : Element) :
    (settings.backUp attribute? template result element).body = element.body := by
  unfold backUp
  dsimp only
  split <;> rfl

theorem attribute?_applyAttribute_of_ne
    (settings : Settings)
    (command : Command)
    {name written : String}
    (different : name ≠ written)
    (noBackup : name ≠ settings.backupAttribute (some written))
    (element : Element) :
    (settings.applyAttribute command written element).attribute? name =
      element.attribute? name := by
  unfold applyAttribute
  split
  · exact element.attribute?_setAttribute_of_ne different written
  · exact element.attribute?_removeAttribute_of_ne different
  · dsimp only
    rw [Element.attribute?_setAttribute_of_ne _ different,
      settings.attribute?_backUp_of_ne noBackup]

theorem body_applyAttribute
    (settings : Settings)
    (command : Command)
    (written : String)
    (element : Element) :
    (settings.applyAttribute command written element).body = element.body := by
  unfold applyAttribute
  split
  · rfl
  · rfl
  · dsimp only
    rw [Element.body_setAttribute, settings.body_backUp]

theorem attribute?_applyValue_of_ne
    (command : Command)
    {name : String}
    (notChecked : name ≠ "checked")
    (notValue : name ≠ "value")
    (element : Element) :
    (applyValue command element).attribute? name = element.attribute? name := by
  unfold applyValue
  dsimp only
  split
  · split
    · exact element.attribute?_setAttribute_of_ne notChecked _
    · exact element.attribute?_removeAttribute_of_ne notChecked
  · split
    · rfl
    · split
      · rfl
      · exact element.attribute?_setAttribute_of_ne notValue _

/-- A command changes no attribute that it does not reach. -/
theorem attribute?_applyImmediate
    (settings : Settings)
    (command : Command)
    {name : String}
    (notReached : name ∉ settings.reached command)
    (element : Element) :
    (settings.applyImmediate command element).attribute? name =
      element.attribute? name := by
  unfold reached at notReached
  unfold applyImmediate
  cases action : command.action with
  | attr =>
      cases parameter : command.parameter? with
      | none =>
          rfl
      | some written =>
          simp only [action, parameter, List.mem_cons, List.not_mem_nil, or_false,
            not_or] at notReached
          exact settings.attribute?_applyAttribute_of_ne command notReached.1
            notReached.2 element
  | text =>
      simp only [action, List.mem_singleton] at notReached
      exact settings.attribute?_backUp_of_ne notReached _ _ element
  | value =>
      simp only [action, List.mem_cons, List.not_mem_nil, or_false,
        not_or] at notReached
      exact attribute?_applyValue_of_ne command notReached.1 notReached.2 element
  | classes =>
      simp only [action, List.mem_singleton] at notReached
      cases command.parameter? with
      | none =>
          rfl
      | some parameter =>
          exact (applyClasses_sameBut _ parameter element).elsewhere name notReached
  | toggle =>
      simp only [action, List.mem_singleton] at notReached
      exact (settings.applyToggle_sameBut _ element).elsewhere name notReached
  | _ =>
      rfl

theorem attribute?_applyAll
    (settings : Settings)
    {commands : List Command}
    {name : String}
    (notReached : ∀ command ∈ commands, name ∉ settings.reached command)
    (element : Element) :
    (settings.applyAll commands element).attribute? name = element.attribute? name := by
  induction commands generalizing element with
  | nil =>
      rfl
  | cons command commands inductionHypothesis =>
      obtain ⟨notFirst, notRest⟩ := List.forall_mem_cons.mp notReached
      rw [applyAll, List.foldl_cons, ← applyAll, inductionHypothesis notRest,
        settings.attribute?_applyImmediate command notFirst]

/-!
## Beyond attributes
-/

/-- What a command makes of all but the attributes. -/
def bodyAfter
    (body : Element)
    (command : Command) : Element :=
  match command.action with
  | .text =>
      body.setText
        (Placeholder.substitute body.content (shownText command.value) command.path? none)
  | .html => body.setHtml command.value.display
  | .value =>
      if body.hasTag "select" then
        { body with children := body.children.map (selectOption command.value.display) }
      else if body.hasTag "textarea" then
        body.setText command.value.display
      else
        body
  | _ => body

/-- An element has one tag. -/
theorem hasTag_eq_false
    {element : Element}
    {tag other : String}
    (different : tag.toList.map Char.toLower ≠ other.toList.map Char.toLower)
    (has : element.hasTag tag = true) :
    element.hasTag other = false := by
  simp only [Element.hasTag, beq_iff_eq, beq_eq_false_iff_ne] at has ⊢
  rw [has]
  exact different

theorem body_applyValue
    {command : Command}
    (isValue : command.action = .value)
    (element : Element) :
    (applyValue command element).body = bodyAfter element.body command := by
  have sameTag (tag : String) : element.body.hasTag tag = element.hasTag tag :=
    rfl
  unfold applyValue bodyAfter
  simp only [isValue, sameTag]
  by_cases checkable : element.isCheckable = true
  · have isInput : element.hasTag "input" = true :=
      (Bool.and_eq_true_iff.mp checkable).1
    have notSelect : element.hasTag "select" = false :=
      hasTag_eq_false (by decide) isInput
    have notTextarea : element.hasTag "textarea" = false :=
      hasTag_eq_false (by decide) isInput
    simp only [checkable, notSelect, notTextarea, Bool.false_eq_true, ↓reduceIte]
    split <;> rfl
  · simp only [checkable, Bool.false_eq_true, ↓reduceIte]
    split
    · rfl
    · split <;> rfl

theorem body_applyImmediate
    (settings : Settings)
    (command : Command)
    (element : Element) :
    (settings.applyImmediate command element).body = bodyAfter element.body command := by
  cases action : command.action with
  | value =>
      simp only [applyImmediate, action]
      exact body_applyValue action element
  | attr =>
      simp only [applyImmediate, bodyAfter, action]
      cases command.parameter? with
      | none =>
          rfl
      | some name =>
          exact settings.body_applyAttribute command name element
  | text =>
      simp only [applyImmediate, bodyAfter, action]
      exact congrArg (fun changed : Element => changed.setText _)
        (settings.body_backUp none _ _ element)
  | classes =>
      simp only [applyImmediate, bodyAfter, action]
      cases command.parameter? with
      | none =>
          rfl
      | some parameter =>
          exact (applyClasses_sameBut _ parameter element).body
  | toggle =>
      simp only [applyImmediate, bodyAfter, action]
      exact (settings.applyToggle_sameBut _ element).body
  | _ =>
      simp only [applyImmediate, bodyAfter, action, Element.body, Element.setHtml]

/-- Commands act on all but the attributes as if these were not there. -/
theorem body_applyAll
    (settings : Settings)
    (commands : List Command)
    (element : Element) :
    (settings.applyAll commands element).body = commands.foldl bodyAfter element.body := by
  induction commands generalizing element with
  | nil =>
      rfl
  | cons command commands inductionHypothesis =>
      rw [List.foldl_cons, ← settings.body_applyImmediate command element]
      exact inductionHypothesis _

@[simp]
theorem tag_bodyAfter
    (body : Element)
    (command : Command) :
    (bodyAfter body command).tag = body.tag := by
  unfold bodyAfter
  split
  · rfl
  · rfl
  · split
    · rfl
    · split <;> rfl
  · rfl

theorem hasTag_bodyAfter
    (body : Element)
    (command : Command)
    (tag : String) :
    (bodyAfter body command).hasTag tag = body.hasTag tag := by
  rw [Element.hasTag, tag_bodyAfter, Element.hasTag]

theorem hasTag_applyImmediate
    (settings : Settings)
    (command : Command)
    (element : Element)
    (tag : String) :
    (settings.applyImmediate command element).hasTag tag = element.hasTag tag := by
  have same := congrArg (fun body => Element.hasTag body tag)
    (settings.body_applyImmediate command element)
  exact same.trans (hasTag_bodyAfter element.body command tag)

/-!
## Free attributes
-/

/-- Whether a command writes no attribute by name but free ones. -/
def WritesFree
    (settings : Settings)
    (command : Command) : Prop :=
  ∀ name, command.action = .attr → command.parameter? = some name →
    settings.IsFree name

/-- A command reaches the backup of an attribute only if it writes the attribute. -/
theorem WritesFree.backup_not_mem_reached
    {settings : Settings}
    {command : Command}
    (free : settings.WritesFree command)
    {owner : String}
    (notWritten : ¬(command.action = .attr ∧ command.parameter? = some owner)) :
    settings.backupAttribute (some owner) ∉ settings.reached command := by
  have backupNot : ∀ {name : String}, '-' ∉ name.toList →
      settings.backupAttribute (some owner) ≠ name :=
    fun noDash => settings.backupAttribute_ne noDash owner
  unfold reached
  cases action : command.action with
  | attr =>
      cases parameter : command.parameter? with
      | none =>
          simp
      | some written =>
          have writtenFree := free written action parameter
          simp only [List.mem_cons, List.not_mem_nil, or_false, not_or]
          refine ⟨fun same => writtenFree.ne_backupAttribute (some owner) same.symm, ?_⟩
          intro same
          have sameOwner : owner = written :=
            Option.some.inj (settings.backupAttribute_injective same)
          exact notWritten ⟨action, sameOwner ▸ parameter⟩
  | text =>
      simpa using fun same => nomatch settings.backupAttribute_injective same
  | value =>
      simpa using ⟨backupNot (by decide), backupNot (by decide)⟩
  | classes =>
      simpa using backupNot (by decide)
  | toggle =>
      simpa using backupNot (by decide)
  | _ =>
      simp

/-- Only a command for the text reaches the backup of the text. -/
theorem WritesFree.textBackup_not_mem_reached
    {settings : Settings}
    {command : Command}
    (free : settings.WritesFree command)
    (notClass : settings.attributes.backup ≠ Element.classAttribute)
    (notText : command.action ≠ .text)
    (notValue :
      command.action = .value → settings.attributes.backup ∉ ["checked", "value"]) :
    settings.attributes.backup ∉ settings.reached command := by
  unfold reached
  cases action : command.action with
  | attr =>
      cases parameter : command.parameter? with
      | none =>
          simp
      | some name =>
          have nameFree := free name action parameter
          have notBackup : settings.attributes.backup ≠ settings.backupAttribute (some name) := by
            rw [← backupAttribute_none]
            exact fun same => nomatch settings.backupAttribute_injective same
          simpa using ⟨(nameFree.ne_backupAttribute none).symm, notBackup⟩
  | text =>
      exact absurd action notText
  | value =>
      exact notValue action
  | classes =>
      simpa using notClass
  | toggle =>
      simpa using notClass
  | _ =>
      simp

/-- A command that writes free attributes reaches the instructions only where these are
the classes or a form value. -/
theorem WritesFree.instruction_not_mem_reached
    {settings : Settings}
    {command : Command}
    (free : settings.WritesFree command)
    (notClass : settings.attributes.instruction ≠ Element.classAttribute)
    (noPrefix : ¬settings.HasBackupPrefix settings.attributes.instruction)
    (notValue :
      command.action = .value →
        settings.attributes.instruction ∉ ["checked", "value"]) :
    settings.attributes.instruction ∉ settings.reached command := by
  have notBackup :
      ∀ attribute?, settings.attributes.instruction ≠ settings.backupAttribute attribute? :=
    ne_backupAttribute noPrefix
  unfold reached
  cases action : command.action with
  | attr =>
      cases parameter : command.parameter? with
      | none =>
          simp
      | some name =>
          have nameFree := free name action parameter
          simpa using ⟨nameFree.1.symm, notBackup (some name)⟩
  | text =>
      simpa using notBackup none
  | value =>
      exact notValue action
  | classes =>
      simpa using notClass
  | toggle =>
      simpa using notClass
  | _ =>
      simp

theorem BackupsFree.applyImmediate
    {settings : Settings}
    {command : Command}
    (free : settings.WritesFree command)
    {element : Element}
    (backups : settings.BackupsFree element) :
    settings.BackupsFree (settings.applyImmediate command element) := by
  intro owner named kept
  by_contra notFree
  have notReached :=
    free.backup_not_mem_reached fun written => notFree (free owner written.1 written.2)
  rw [Element.hasAttribute, settings.attribute?_applyImmediate command notReached] at kept
  exact notFree (backups owner named kept)

theorem BackupsFree.applyAll
    {settings : Settings}
    {commands : List Command}
    (free : ∀ command ∈ commands, settings.WritesFree command)
    {element : Element}
    (backups : settings.BackupsFree element) :
    settings.BackupsFree (settings.applyAll commands element) := by
  induction commands generalizing element with
  | nil =>
      exact backups
  | cons command commands inductionHypothesis =>
      obtain ⟨freeFirst, freeRest⟩ := List.forall_mem_cons.mp free
      exact inductionHypothesis freeRest (backups.applyImmediate freeFirst)

theorem BackupsFree.rendered
    {settings : Settings}
    {commands : List Command}
    (free : ∀ command ∈ commands, settings.WritesFree command)
    {element : Element}
    (backups : settings.BackupsFree element) :
    settings.BackupsFree (settings.rendered commands element) := by
  have kept := backups.restore.applyAll free
  exact kept

/-- A render leaves attributes alone that are not free and that no command reaches. -/
theorem BackupsFree.attribute?_rendered
    {settings : Settings}
    {commands : List Command}
    {element : Element}
    (backups : settings.BackupsFree element)
    {name : String}
    (notClass : name ≠ Element.classAttribute)
    (notFree : ¬settings.IsFree name)
    (notReached : ∀ command ∈ commands, name ∉ settings.reached command) :
    (settings.rendered commands element).attribute? name = element.attribute? name := by
  rw [Settings.rendered, Element.attribute?_markRemoved,
    settings.attribute?_applyAll notReached, backups.attribute?_restore notClass notFree]

/-!
## The text
-/

/-- The text of an element with the backup of it. -/
def textSlot
    (settings : Settings)
    (element : Element) : TemplateSlot where
  shown? := some element.content
  kept? := element.attribute? settings.attributes.backup

/-- What a command does to the text. -/
def textChanges
    (isTextarea : Bool)
    (command : Command) : List SlotChange :=
  match command.action with
  | .text => [.fill (shownText command.value) command.path? none]
  | .html => [.put (some command.value.display)]
  | .value => if isTextarea then [.put (some command.value.display)] else []
  | _ => []

theorem textSlot_restore
    {settings : Settings}
    {element : Element}
    (backups : settings.BackupsFree element)
    (notClass : settings.attributes.backup ≠ Element.classAttribute) :
    settings.textSlot (settings.restore element) = (settings.textSlot element).restore := by
  have notFree : ¬settings.IsFree settings.attributes.backup :=
    fun free => free.ne_backupAttribute none rfl
  ext1
  · simp only [textSlot, TemplateSlot.restore, settings.content_restore]
    cases element.attribute? settings.attributes.backup <;> rfl
  · exact backups.attribute?_restore notClass notFree

theorem textSlot_applyText
    (settings : Settings)
    (command : Command)
    (element : Element) :
    settings.textSlot (settings.applyText command element) =
      (settings.textSlot element).change
        (.fill (shownText command.value) command.path? none) := by
  ext1
  · rfl
  · exact settings.attribute?_backUp none _ _ element

theorem content_applyImmediate
    (settings : Settings)
    (command : Command)
    (notText : command.action ≠ .text)
    (element : Element) :
    some (settings.applyImmediate command element).content =
      ((settings.textSlot element).run
        (textChanges (element.hasTag "textarea") command)).shown? := by
  have sameTag (tag : String) : element.body.hasTag tag = element.hasTag tag :=
    rfl
  rw [← Element.content_body, settings.body_applyImmediate]
  unfold bodyAfter textChanges
  cases action : command.action with
  | text =>
      exact absurd action notText
  | value =>
      simp only [sameTag]
      by_cases isTextarea : element.hasTag "textarea" = true
      · have notSelect : element.hasTag "select" = false :=
          hasTag_eq_false (by decide) isTextarea
        simp only [isTextarea, notSelect, Bool.false_eq_true, ↓reduceIte]
        rfl
      · simp only [isTextarea, Bool.false_eq_true, ↓reduceIte]
        split <;> rfl
  | _ =>
      rfl

theorem kept?_run_textChanges
    (isTextarea : Bool)
    {command : Command}
    (notText : command.action ≠ .text)
    (slot : TemplateSlot) :
    (slot.run (textChanges isTextarea command)).kept? = slot.kept? := by
  unfold textChanges
  cases action : command.action with
  | text =>
      exact absurd action notText
  | value =>
      cases isTextarea <;> rfl
  | _ =>
      rfl

/-- A command acts on the text as its changes do. -/
theorem textSlot_applyImmediate
    (settings : Settings)
    {command : Command}
    (notReached :
      command.action ≠ .text → settings.attributes.backup ∉ settings.reached command)
    (element : Element) :
    settings.textSlot (settings.applyImmediate command element) =
      (settings.textSlot element).run
        (textChanges (element.hasTag "textarea") command) := by
  by_cases isText : command.action = .text
  · simp only [applyImmediate, textChanges, isText]
    exact settings.textSlot_applyText command element
  · ext1
    · exact settings.content_applyImmediate command isText element
    · rw [kept?_run_textChanges _ isText]
      exact settings.attribute?_applyImmediate command (notReached isText) element

/-- Commands act on the text as all their changes do. -/
theorem textSlot_applyAll
    (settings : Settings)
    {commands : List Command}
    (notReached :
      ∀ command ∈ commands,
        command.action ≠ .text → settings.attributes.backup ∉ settings.reached command)
    (element : Element) :
    settings.textSlot (settings.applyAll commands element) =
      (settings.textSlot element).run
        (commands.flatMap (textChanges (element.hasTag "textarea"))) := by
  induction commands generalizing element with
  | nil =>
      rfl
  | cons command commands inductionHypothesis =>
      obtain ⟨notFirst, notRest⟩ := List.forall_mem_cons.mp notReached
      rw [applyAll, List.foldl_cons, ← applyAll, inductionHypothesis notRest,
        settings.hasTag_applyImmediate, settings.textSlot_applyImmediate notFirst,
        List.flatMap_cons, TemplateSlot.run_append]

end Settings

end DataBinding
