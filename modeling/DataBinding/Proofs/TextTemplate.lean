import DataBinding.Proofs.CommandReach

namespace DataBinding

/-!
# The text of a template

An element that is rendered by commands which touch neither its instructions nor
backups, and which put no markup and no form value in place of the text, holds its
text template for good.  What it shows is decided by the commands of the last
render alone.
-/

/-- What an element shows: its content, and whether that is markup. -/
def Element.shows (element : Element) : String × Bool :=
  (element.content, element.isHtml)

namespace Settings

/-- Whether a command leaves text templates in place: it is not for markup or form
values, and writes free attributes only. -/
structure SparesText
    (settings : Settings)
    (command : Command) : Prop where
  notHtml :
    command.action ≠ .html
  notValue :
    command.action ≠ .value
  writesFree :
    settings.WritesFree command

/-- Whether an element is a template of a text: plain text with a placeholder, no
attribute that looks like a backup, and instructions that spare the text whatever
the data. -/
structure IsTextTemplate
    (settings : Settings)
    (template : Element) : Prop where
  isText :
    template.isHtml = false
  noBackups :
    ∀ name, template.hasAttribute name = true → ¬settings.HasBackupPrefix name
  placeholder :
    Placeholder.occurs ['$', '\x7b'] template.content.toList = true
  instructions :
    ∀ source, template.attribute? settings.attributes.instruction = some source →
      ∀ instruction ∈ instructions source,
        ∀ context command, instruction.command context = .ok command →
          settings.SparesText command

section Spares

variable
  {settings : Settings}
  {command : Command}
  (spares : settings.SparesText command)

include spares

/-- All that happens to the text is that values are filled in. -/
theorem SparesText.textChanges_eq
    (isTextarea : Bool) :
    textChanges isTextarea command = textChanges false command := by
  unfold textChanges
  cases action : command.action with
  | value =>
      exact absurd action spares.notValue
  | _ =>
      rfl

theorem SparesText.isFill
    {change : SlotChange}
    (member : change ∈ textChanges false command) :
    change.IsFill := by
  unfold textChanges at member
  cases action : command.action with
  | text =>
      simp only [action, List.mem_singleton] at member
      rw [member]
      trivial
  | html =>
      exact absurd action spares.notHtml
  | _ =>
      simp [action] at member

theorem SparesText.isHtml
    {element : Element}
    (isText : element.isHtml = false) :
    (settings.applyImmediate command element).isHtml = false := by
  rw [← Element.isHtml_body, settings.body_applyImmediate]
  unfold bodyAfter
  cases action : command.action with
  | text =>
      rfl
  | html =>
      exact absurd action spares.notHtml
  | value =>
      exact absurd action spares.notValue
  | _ =>
      exact isText

end Spares

/-- Whether an element still has what it shares with its template. -/
structure KeepsText
    (settings : Settings)
    (template element : Element) : Prop where
  instruction :
    element.attribute? settings.attributes.instruction =
      template.attribute? settings.attributes.instruction
  text :
    (settings.textSlot element).Holds template.content
  isText :
    element.isHtml = false
  backups :
    settings.BackupsFree element

namespace IsTextTemplate

variable
  {settings : Settings}
  {template : Element}
  (isTemplate : settings.IsTextTemplate template)

include isTemplate

/-- A template is a copy of itself. -/
theorem keepsText :
    settings.KeepsText template template where
  instruction :=
    rfl
  text := by
    have noBackup := attribute?_backupAttribute_eq_none isTemplate.noBackups none
    rw [backupAttribute_none] at noBackup
    simp [TemplateSlot.Holds, TemplateSlot.restore, textSlot, noBackup]
  isText :=
    isTemplate.isText
  backups :=
    backupsFree_of_noBackups isTemplate.noBackups

end IsTextTemplate

/-- The attributes of instructions and of text backups are not that of classes. -/
structure KeepsApart (settings : Settings) : Prop where
  instruction :
    settings.attributes.instruction ≠ Element.classAttribute
  backup :
    settings.attributes.backup ≠ Element.classAttribute

instance (settings : Settings) : Decidable settings.KeepsApart :=
  decidable_of_iff
    (settings.attributes.instruction ≠ Element.classAttribute ∧
      settings.attributes.backup ≠ Element.classAttribute)
    ⟨fun both => ⟨both.1, both.2⟩, fun apart => ⟨apart.instruction, apart.backup⟩⟩

namespace KeepsText

variable
  {settings : Settings}
  {template element : Element}
  {commands : List Command}

theorem textSlot_applyAll
    (apart : settings.KeepsApart)
    (spare : ∀ command ∈ commands, settings.SparesText command)
    (keeps : settings.KeepsText template element) :
    settings.textSlot (settings.applyAll commands (settings.restore element)) =
      (settings.textSlot element).restore.run (commands.flatMap (textChanges false)) := by
  rw [settings.textSlot_applyAll
      fun command member notText =>
        (spare command member).writesFree.textBackup_not_mem_reached apart.backup notText
          fun isValue => absurd isValue (spare command member).notValue,
    textSlot_restore keeps.backups apart.backup]
  congr 1
  exact List.flatMap_congr fun command member => (spare command member).textChanges_eq _

/-- What a copy shows after a render is decided by the template and the commands. -/
theorem shows_rendered
    (apart : settings.KeepsApart)
    (spare : ∀ command ∈ commands, settings.SparesText command)
    (keeps : settings.KeepsText template element) :
    some (settings.rendered commands element).content =
      (TemplateSlot.run ⟨some template.content, none⟩
        (commands.flatMap (textChanges false))).shown? := by
  have slot := keeps.textSlot_applyAll apart spare
  have restored :
      (settings.textSlot element).restore.shown? =
        (TemplateSlot.mk (some template.content) none).shown? :=
    keeps.text
  calc
    some (settings.rendered commands element).content =
        (settings.textSlot
          (settings.applyAll commands (settings.restore element))).shown? :=
      rfl
    _ = ((settings.textSlot element).restore.run
          (commands.flatMap (textChanges false))).shown? := by
      rw [slot]
    _ = (TemplateSlot.run ⟨some template.content, none⟩
          (commands.flatMap (textChanges false))).shown? :=
      TemplateSlot.shown?_run restored _

theorem isHtml_applyAll
    (spare : ∀ command ∈ commands, settings.SparesText command)
    (isText : element.isHtml = false) :
    (settings.applyAll commands element).isHtml = false := by
  induction commands generalizing element with
  | nil =>
      exact isText
  | cons command commands inductionHypothesis =>
      obtain ⟨spareFirst, spareRest⟩ := List.forall_mem_cons.mp spare
      exact inductionHypothesis spareRest (spareFirst.isHtml isText)

theorem isHtml_rendered
    (spare : ∀ command ∈ commands, settings.SparesText command)
    (keeps : settings.KeepsText template element) :
    (settings.rendered commands element).isHtml = false := by
  apply isHtml_applyAll spare
  rw [settings.isHtml_restore, keeps.isText, Bool.false_and]

/-- A render keeps a copy a copy. -/
theorem rendered
    (apart : settings.KeepsApart)
    (noPrefix : ¬settings.HasBackupPrefix settings.attributes.instruction)
    (isTemplate : Placeholder.isTemplate template.content = true)
    (spare : ∀ command ∈ commands, settings.SparesText command)
    (keeps : settings.KeepsText template element) :
    settings.KeepsText template (settings.rendered commands element) where
  instruction := by
    rw [keeps.backups.attribute?_rendered apart.instruction fun free => free.1 rfl]
    · exact keeps.instruction
    · exact fun command member =>
        (spare command member).writesFree.instruction_not_mem_reached apart.instruction noPrefix
          fun isValue => absurd isValue (spare command member).notValue
  text := by
    have filled :
        ∀ change ∈ commands.flatMap (textChanges false), change.IsFill := by
      intro change member
      obtain ⟨command, inCommands, inChanges⟩ := List.mem_flatMap.mp member
      exact (spare command inCommands).isFill inChanges
    have slot := keeps.textSlot_applyAll apart spare
    have holds := keeps.text.restore.run isTemplate filled
    rw [← slot] at holds
    exact holds
  isText :=
    keeps.isHtml_rendered spare
  backups :=
    keeps.backups.rendered fun command member => (spare command member).writesFree

end KeepsText

end Settings

end DataBinding
