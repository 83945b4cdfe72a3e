import DataBinding.Proofs.RenderedInTurn
import DataBinding.Proofs.RepeatedRender

namespace DataBinding

/-!
# The template of an attribute

A value that is filled into the template of an attribute keeps the template for all
later renders.  A truth value sets or removes the attribute and keeps nothing.  So
the template outlives all renders if the first of them to alter the attribute fills
it, and is lost if a truth value comes first.
-/

/-- Whether a change alters a place that shows a template. -/
def SlotChange.Alters
    (template : String)
    (change : SlotChange) : Prop :=
  (TemplateSlot.change ⟨some template, none⟩ change).shown? ≠ some template

instance
    (template : String)
    (change : SlotChange) :
    Decidable (change.Alters template) :=
  inferInstanceAs (Decidable (_ ≠ _))

/-- Whether the first change that alters a template fills it. -/
def FilledFirst
    (template : String)
    (changes : List SlotChange) : Prop :=
  ∀ change ∈ changes.find? fun change => change.Alters template, change.IsFill

/-- With more changes behind, the first change that alters the template is the same. -/
theorem FilledFirst.of_append
    {template : String}
    {changes later : List SlotChange}
    (filledFirst : FilledFirst template (changes ++ later)) :
    FilledFirst template changes := by
  intro change isFirst
  refine filledFirst change ?_
  rw [List.find?_append, Option.mem_def.mp isFirst]
  rfl

namespace TemplateSlot

theorem change_of_not_alters
    {template : String}
    {change : SlotChange}
    (unaltered : ¬change.Alters template) :
    TemplateSlot.change ⟨some template, none⟩ change = ⟨some template, none⟩ := by
  have shown :
      (TemplateSlot.change ⟨some template, none⟩ change).shown? = some template :=
    not_not.mp unaltered
  cases change with
  | put text? =>
      ext1
      · exact shown
      · rfl
  | fill value path? attribute? =>
      have same : Placeholder.substitute template value path? attribute? = template :=
        Option.some.inj shown
      simp [TemplateSlot.change, same]

theorem run_of_not_alter
    {template : String}
    {changes : List SlotChange}
    (unaltered : ∀ change ∈ changes, ¬change.Alters template) :
    run ⟨some template, none⟩ changes = ⟨some template, none⟩ := by
  induction changes with
  | nil =>
      rfl
  | cons first rest inductionHypothesis =>
      obtain ⟨unalteredFirst, unalteredRest⟩ := List.forall_mem_cons.mp unaltered
      rw [run, List.foldl_cons, change_of_not_alters unalteredFirst, ← run]
      exact inductionHypothesis unalteredRest

/-- Filling a template with an effect keeps it. -/
theorem kept?_change_of_alters
    {template : String}
    (isTemplate : Placeholder.isTemplate template = true)
    {change : SlotChange}
    (alters : change.Alters template)
    (fills : change.IsFill) :
    (TemplateSlot.change ⟨some template, none⟩ change).kept? = some template := by
  have notEmpty := Placeholder.ne_empty_of_isTemplate isTemplate
  cases change with
  | put text? =>
      exact fills.elim
  | fill value path? attribute? =>
      have altered : template ≠ Placeholder.substitute template value path? attribute? :=
        fun same => alters (congrArg some same.symm)
      simp [TemplateSlot.change, altered, notEmpty, isTemplate]

/-- Whether a place still has the template that it showed before some changes: it is
kept, or none of the changes has altered it. -/
def Outlasts
    (template : String)
    (changes : List SlotChange)
    (slot : TemplateSlot) : Prop :=
  slot.kept? = some template ∨
    slot = ⟨some template, none⟩ ∧ ∀ change ∈ changes, ¬change.Alters template

namespace Outlasts

variable
  {template : String}
  {changes : List SlotChange}
  {slot : TemplateSlot}
  (outlasts : slot.Outlasts template changes)

include outlasts

theorem shown?_restore :
    slot.restore.shown? = some template := by
  rcases outlasts with kept | ⟨rfl, _⟩
  · rw [restore_of_kept kept]
  · rfl

/-- A template that is filled first outlasts the changes of another render. -/
theorem run
    (isTemplate : Placeholder.isTemplate template = true)
    {more : List SlotChange}
    (filledFirst : FilledFirst template (changes ++ more)) :
    (slot.restore.run more).Outlasts template (changes ++ more) := by
  rcases outlasts with kept | ⟨rfl, unaltered⟩
  · left
    rw [restore_of_kept kept]
    exact kept?_run rfl more
  · have notBefore : changes.find? (fun change => change.Alters template) = none :=
      List.find?_eq_none.mpr fun change member => by simpa using unaltered change member
    have restored : restore ⟨some template, none⟩ = ⟨some template, none⟩ :=
      rfl
    rw [restored]
    cases found : more.find? fun change => change.Alters template with
    | none =>
        right
        have unalteredMore : ∀ change ∈ more, ¬change.Alters template := by
          simpa using found
        refine ⟨run_of_not_alter unalteredMore, ?_⟩
        exact List.forall_mem_append.mpr ⟨unaltered, unalteredMore⟩
    | some first =>
        left
        have fills : first.IsFill := by
          refine filledFirst first ?_
          rw [List.find?_append, notBefore, found]
          rfl
        -- The changes in front of the first leave the template alone, and those behind
        -- it find the template kept.
        obtain ⟨alters, before, behind, rfl, unalteredBefore⟩ :=
          List.find?_eq_some_iff_append.mp found
        have sameBefore :
            TemplateSlot.run ⟨some template, none⟩ before = ⟨some template, none⟩ :=
          run_of_not_alter fun change member => by simpa using unalteredBefore change member
        rw [run_append, sameBefore, TemplateSlot.run, List.foldl_cons]
        exact kept?_run
          (kept?_change_of_alters isTemplate (of_decide_eq_true alters) fills) behind

end Outlasts

end TemplateSlot

namespace Settings

/-!
## What renders do to an attribute
-/

/-- What commands do to an attribute that they write by its name. -/
def writtenChanges
    (name : String)
    (commands : List Command) : List SlotChange :=
  (commands.filter fun command =>
    command.action = .attr ∧ command.parameter? = some name).map (attributeChange name)

/-- An attribute that holds no form value is changed by its name only. -/
theorem attributeChanges_eq
    {name : String}
    (notFormValue : name ∉ ["checked", "value"])
    (control : FormControl)
    (command : Command) :
    attributeChanges control name command = writtenChanges name [command] := by
  simp only [List.mem_cons, List.not_mem_nil, or_false, not_or] at notFormValue
  unfold attributeChanges writtenChanges
  cases action : command.action with
  | attr =>
      by_cases parameter : command.parameter? = some name <;> simp [action, parameter]
  | value =>
      simp [action, valueChanges, notFormValue]
  | _ =>
      simp [action]

theorem writtenChanges_cons
    (name : String)
    (command : Command)
    (commands : List Command) :
    writtenChanges name (command :: commands) =
      writtenChanges name [command] ++ writtenChanges name commands := by
  rw [writtenChanges, ← List.singleton_append, List.filter_append, List.map_append,
    ← writtenChanges, ← writtenChanges]

section WriteFree

variable
  {settings : Settings}
  {commands : List Command}
  (writeFree : ∀ command ∈ commands, settings.WritesFree command)
  {name : String}
  (ordinary : settings.IsOrdinary name)
  (notFormValue : name ∉ ["checked", "value"])

include writeFree ordinary notFormValue

theorem attributeSlot_applyAll_of_not_formValue
    (element : Element) :
    settings.attributeSlot name (settings.applyAll commands element) =
      (settings.attributeSlot name element).run (writtenChanges name commands) := by
  induction commands generalizing element with
  | nil =>
      rfl
  | cons command commands inductionHypothesis =>
      obtain ⟨writesFree, restWriteFree⟩ := List.forall_mem_cons.mp writeFree
      rw [writtenChanges_cons, TemplateSlot.run_append,
        ← attributeChanges_eq notFormValue element.formControl,
        ← attributeSlot_applyImmediate writesFree ordinary.1 ordinary.2.1 fun _ => rfl]
      exact inductionHypothesis restWriteFree _

/-- A render makes the changes that its commands write on the restored attribute. -/
theorem attributeSlot_rendered
    {element : Element}
    (backups : settings.BackupsFree element) :
    settings.attributeSlot name (settings.rendered commands element) =
      (settings.attributeSlot name element).restore.run (writtenChanges name commands) := by
  rw [← attributeSlot_restore backups ordinary.2.1 ordinary.2.2]
  exact attributeSlot_applyAll_of_not_formValue writeFree ordinary notFormValue _

end WriteFree

/-- What rendering an element in one context after the other does to an attribute. -/
def changesInTurn
    (settings : Settings)
    (name : String)
    (contexts : List Context)
    (element : Element) : List SlotChange :=
  match element.attribute? settings.attributes.instruction with
  | none => []
  | some source =>
      contexts.flatMap fun context => writtenChanges name (activeCommands context source)

theorem changesInTurn_concat
    {settings : Settings}
    {element : Element}
    {source : String}
    (instructed : element.attribute? settings.attributes.instruction = some source)
    (name : String)
    (contexts : List Context)
    (context : Context) :
    settings.changesInTurn name (contexts ++ [context]) element =
      settings.changesInTurn name contexts element ++
        writtenChanges name (activeCommands context source) := by
  simp only [changesInTurn, instructed, List.flatMap_append, List.flatMap_singleton]

/-!
## Elements with templates in attributes
-/

/-- Whether an element has a template in an attribute: a text with a placeholder in an
ordinary attribute that holds no form value, no attribute that looks like a backup,
and instructions that write free attributes and stay themselves, whatever the data. -/
structure IsAttributeTemplate
    (settings : Settings)
    (name template : String)
    (element : Element) : Prop where
  shown :
    element.attribute? name = some template
  placeholder :
    Placeholder.occurs ['$', '\x7b'] template.toList = true
  ordinary :
    settings.IsOrdinary name
  notFormValue :
    name ∉ ["checked", "value"]
  noBackups :
    ∀ name, element.hasAttribute name = true → ¬settings.HasBackupPrefix name
  notClass :
    settings.attributes.instruction ≠ Element.classAttribute
  instructions :
    ∀ source, element.attribute? settings.attributes.instruction = some source →
      ∀ instruction ∈ instructions source,
        ∀ context command, instruction.command context = .ok command →
          settings.WritesFree command ∧
            (command.action = .value →
              settings.attributes.instruction ∉ ["checked", "value"])

/-- Whether an element has the instructions of another, and backups of free attributes
only. -/
structure FollowsInstructions
    (settings : Settings)
    (origin element : Element) : Prop where
  instruction :
    element.attribute? settings.attributes.instruction =
      origin.attribute? settings.attributes.instruction
  backups :
    settings.BackupsFree element

namespace IsAttributeTemplate

variable
  {settings : Settings}
  {name template : String}
  {origin : Element}
  (isTemplate : settings.IsAttributeTemplate name template origin)

include isTemplate

theorem followsInstructions :
    settings.FollowsInstructions origin origin where
  instruction :=
    rfl
  backups :=
    backupsFree_of_noBackups isTemplate.noBackups

theorem attributeSlot_eq :
    settings.attributeSlot name origin = ⟨some template, none⟩ := by
  ext1
  · exact isTemplate.shown
  · exact attribute?_backupAttribute_eq_none isTemplate.noBackups (some name)

section Instructed

variable
  {source : String}
  (instructed : origin.attribute? settings.attributes.instruction = some source)

include instructed

theorem writesFree
    {context : Context}
    {command : Command}
    (member : command ∈ activeCommands context source) :
    settings.WritesFree command := by
  obtain ⟨⟨instruction, inSource, isCommand⟩, _⟩ := mem_activeCommands.mp member
  exact (isTemplate.instructions source instructed instruction inSource context command
    isCommand).1

theorem instruction_not_mem_reached
    {context : Context}
    {command : Command}
    (member : command ∈ activeCommands context source) :
    settings.attributes.instruction ∉ settings.reached command := by
  have noPrefix :=
    isTemplate.noBackups _ (Option.isSome_iff_exists.mpr ⟨source, instructed⟩)
  obtain ⟨⟨instruction, inSource, isCommand⟩, _⟩ := mem_activeCommands.mp member
  have writes :=
    isTemplate.instructions source instructed instruction inSource context command isCommand
  exact writes.1.instruction_not_mem_reached isTemplate.notClass noPrefix writes.2

end Instructed

variable
  {dispatcher : Dispatcher σ}
  (leaves : dispatcher.LeavesElements)

include leaves

/-- A render changes neither the instructions nor what is backed up. -/
theorem followsInstructions_render
    (context : Context)
    {element : Element}
    (state : σ)
    (follows : settings.FollowsInstructions origin element) :
    settings.FollowsInstructions origin
      (settings.render dispatcher context element state).2.1 := by
  cases instructed : origin.attribute? settings.attributes.instruction with
  | none =>
      rw [render_element_of_none (follows.instruction.trans instructed)]
      exact follows
  | some source =>
      rw [render_element (follows.instruction.trans instructed) leaves]
      refine ⟨?_, follows.backups.rendered fun _ => isTemplate.writesFree instructed⟩
      rw [follows.backups.attribute?_rendered isTemplate.notClass (fun free => free.1 rfl)
        fun _ => isTemplate.instruction_not_mem_reached instructed]
      exact follows.instruction

theorem followsInstructions_renderInTurn
    (contexts : List Context)
    (state : σ) :
    settings.FollowsInstructions origin
      (settings.renderInTurn dispatcher contexts origin state).1 :=
  renderInTurn_keeps
    (fun context _ reached => isTemplate.followsInstructions_render leaves context reached)
    contexts isTemplate.followsInstructions state

/-- What a render makes of the attribute is decided by what was restored and by the
commands. -/
theorem attributeSlot_render
    {source : String}
    (instructed : origin.attribute? settings.attributes.instruction = some source)
    {element : Element}
    (follows : settings.FollowsInstructions origin element)
    (context : Context)
    (state : σ) :
    settings.attributeSlot name (settings.render dispatcher context element state).2.1 =
      (settings.attributeSlot name element).restore.run
        (writtenChanges name (activeCommands context source)) := by
  rw [render_element (follows.instruction.trans instructed) leaves]
  exact
    attributeSlot_rendered (fun _ => isTemplate.writesFree instructed) isTemplate.ordinary
      isTemplate.notFormValue follows.backups

/-- A template that is filled first outlasts all renders. -/
theorem outlasts_renderInTurn
    {source : String}
    (instructed : origin.attribute? settings.attributes.instruction = some source)
    (contexts : List Context)
    (filledFirst : FilledFirst template (settings.changesInTurn name contexts origin))
    (state : σ) :
    (settings.attributeSlot name
        (settings.renderInTurn dispatcher contexts origin state).1).Outlasts template
      (settings.changesInTurn name contexts origin) := by
  induction contexts using List.reverseRecOn with
  | nil =>
      right
      refine ⟨isTemplate.attributeSlot_eq, ?_⟩
      simp [changesInTurn, instructed]
  | append_singleton contexts context inductionHypothesis =>
      rw [changesInTurn_concat instructed] at filledFirst ⊢
      rw [renderInTurn_concat,
        isTemplate.attributeSlot_render leaves instructed
          (isTemplate.followsInstructions_renderInTurn leaves contexts state)]
      exact
        (inductionHypothesis filledFirst.of_append).run
          (Placeholder.isTemplate_of_occurs isTemplate.placeholder) filledFirst

end IsAttributeTemplate

end Settings

/--
The template of an attribute is not lost when it is filled first: an element that is
rendered in one context after the other shows in the attribute what it shows when it
is rendered in the last context alone, if the first change of the earlier renders
that alters the template fills a value into it.
-/
theorem renderInTurn_attribute
    {settings : Settings}
    {name template : String}
    {element : Element}
    (isTemplate : settings.IsAttributeTemplate name template element)
    {dispatcher : Dispatcher σ}
    (leaves : dispatcher.LeavesElements)
    (earlier : List Context)
    (last : Context)
    (filledFirst : FilledFirst template (settings.changesInTurn name earlier element))
    (state fresh : σ) :
    (settings.renderInTurn dispatcher (earlier ++ [last]) element state).1.attribute? name =
      (settings.render dispatcher last element fresh).2.1.attribute? name := by
  have follows := isTemplate.followsInstructions_renderInTurn leaves earlier state
  rw [Settings.renderInTurn_concat]
  cases instructed : element.attribute? settings.attributes.instruction with
  | none =>
      rw [Settings.renderInTurn_of_none instructed,
        Settings.render_element_of_none instructed,
        Settings.render_element_of_none instructed]
  | some source =>
      have outlasts :=
        isTemplate.outlasts_renderInTurn leaves instructed earlier filledFirst state
      have restored :
          (settings.attributeSlot name
              (settings.renderInTurn dispatcher earlier element state).1).restore.shown? =
            (settings.attributeSlot name element).restore.shown? := by
        rw [outlasts.shown?_restore, isTemplate.attributeSlot_eq]
        rfl
      have inTurn := isTemplate.attributeSlot_render leaves instructed follows last
        (settings.renderInTurn dispatcher earlier element state).2
      have alone := isTemplate.attributeSlot_render leaves instructed
        isTemplate.followsInstructions last fresh
      calc
        _ = ((settings.attributeSlot name
                (settings.renderInTurn dispatcher earlier element state).1).restore.run
              (Settings.writtenChanges name (activeCommands last source))).shown? :=
          congrArg TemplateSlot.shown? inTurn
        _ = ((settings.attributeSlot name element).restore.run
              (Settings.writtenChanges name (activeCommands last source))).shown? :=
          TemplateSlot.shown?_run restored _
        _ = _ :=
          (congrArg TemplateSlot.shown? alone).symm

/-- A link whose title says what is sent. -/
def sendLink : Element where
  tag := "a"
  attributes := .ofList [("title", "Send $\x7bname\x7d"), ("z-var", "name @title")]

theorem isAttributeTemplate_sendLink :
    Settings.IsAttributeTemplate {} "title" "Send $\x7bname\x7d" sendLink where
  shown :=
    rfl
  placeholder := by
    decide
  ordinary := by
    decide
  notFormValue := by
    decide
  noBackups name has := by
    have known : name = "title" ∨ name = "z-var" := by
      by_contra other
      obtain ⟨notTitle, notInstruction⟩ := not_or.mp other
      simp [sendLink, Element.hasAttribute, Element.attribute?, Attributes.ofList,
        Attributes.get?_set_of_ne _ notTitle, Attributes.get?_set_of_ne _ notInstruction] at has
    rcases known with rfl | rfl <;> decide
  notClass := by
    decide
  instructions source instructed instruction member context command isCommand := by
    have sourceText : source = "name @title" :=
      (Option.some.inj (instructed : some "name @title" = some source)).symm
    have single :
        instructions "name @title" =
          [⟨"name @title", ⟨0, 11⟩, [.name "name" ⟨0, 4⟩, .name "@title" ⟨5, 11⟩]⟩] :=
      rfl
    rw [sourceText, single, List.mem_singleton] at member
    have isAttribute :
        Instruction.command context
            ⟨"name @title", ⟨0, 11⟩, [.name "name" ⟨0, 4⟩, .name "@title" ⟨5, 11⟩]⟩ =
          .ok
            { Command.ofAction .attr ((context.lookup "name").toScalar.negate 0) with
              path? := some "name", parameter? := some "title" } :=
      rfl
    rw [member, isAttribute] at isCommand
    cases isCommand
    constructor
    · rintro name - ⟨rfl⟩
      decide
    · intro isValue
      cases isValue

/-- A title that has been filled in once is filled in anew, also when truth values
have set and removed it meanwhile. -/
theorem renderInTurn_attribute_sendLink :
    (Settings.renderInTurn {} .unattended
        ([.string "mail", .bool true, .bool false].map nameContext ++
          [nameContext (.string "letter")])
        sendLink ()).1.attribute? "title" =
      some "Send letter" := by
  rw [renderInTurn_attribute isAttributeTemplate_sendLink
    Dispatcher.unattended_leavesElements _ _ ?_ () ()]
  · rfl
  · rintro change ⟨rfl⟩
    trivial

/-- A title that a truth value sets before it has ever been filled in is lost: it shows
the plain value in place of the template from then on. -/
theorem renderInTurn_attribute_lostToTruth :
    Settings.IsAttributeTemplate {} "title" "Send $\x7bname\x7d" sendLink ∧
      Dispatcher.unattended.LeavesElements ∧
      (Settings.renderInTurn {} .unattended
          [nameContext (.bool true), nameContext (.string "mail")]
          sendLink ()).1.attribute? "title" =
        some "mail" ∧
      (Settings.render {} .unattended (nameContext (.string "mail"))
          sendLink ()).2.1.attribute? "title" =
        some "Send mail" :=
  ⟨isAttributeTemplate_sendLink, Dispatcher.unattended_leavesElements, rfl, rfl⟩

end DataBinding
