import DataBinding.Proofs.AttributeSlot
import DataBinding.Proofs.ClassAttribute
import DataBinding.Proofs.RenderedBody

namespace DataBinding

/-!
# Rendering again

A second render with the same data starts from the restored element, in which
templates are back in place and markers gone, but classes, plain attributes and
form values are as the first render left them.  Under conditions that ordinary
templates meet, it ends where the first one did, up to the order of the classes.
-/

namespace Settings

/-- Whether an attribute is free, has a name and does not hold the classes. -/
def IsOrdinary
    (settings : Settings)
    (name : String) : Prop :=
  settings.IsFree name ∧ name ≠ Element.classAttribute ∧ name ≠ ""

instance
    (settings : Settings)
    (name : String) :
    Decidable (settings.IsOrdinary name) :=
  inferInstanceAs (Decidable (_ ∧ _))

/-- Whether a command can be repeated: it writes ordinary attributes only, brings no
new template, and its classes have no blanks. -/
structure IsRepeatable
    (settings : Settings)
    (command : Command) : Prop where
  attributeOrdinary :
    ∀ name, command.action = .attr → command.parameter? = some name →
      settings.IsOrdinary name ∧ Placeholder.isTemplate name = false
  valuePlain :
    command.action ∈ [.attr, .text, .html, .value] →
      Placeholder.isTemplate command.value.display = false
  classesSolid :
    ∀ parameter, command.action = .classes → command.parameter? = some parameter →
      ∀ listed ∈ listedClasses parameter, Text.IsSolid listed

/-- Whether commands can be repeated on an element: none of the attributes with a
meaning is taken for a backup or for the instructions, the markers have no blanks,
the backups there are belong to ordinary attributes, and what decides how form
values are put in is written before the first of them. -/
structure CanRepeat
    (settings : Settings)
    (commands : List Command)
    (element : Element) : Prop where
  classFree :
    settings.IsFree Element.classAttribute
  controlsFree :
    ∀ name ∈ ["type", "value", "checked"], settings.IsFree name
  markersSolid :
    Text.IsSolid settings.markers.visible ∧ Text.IsSolid settings.markers.hidden
  backupsOrdinary :
    ∀ owner, owner ≠ "" →
      element.hasAttribute (settings.backupAttribute (some owner)) = true →
        settings.IsOrdinary owner
  commandsRepeatable :
    ∀ command ∈ commands, settings.IsRepeatable command
  controlsFirst :
    commands.Pairwise fun earlier later => earlier.action = .value → ¬WritesControl later

theorem IsRepeatable.writesFree
    {settings : Settings}
    {command : Command}
    (repeatable : settings.IsRepeatable command) :
    settings.WritesFree command :=
  fun name isAttr parameter => (repeatable.attributeOrdinary name isAttr parameter).1.1

theorem attributeChanges_type
    (left right : FormControl) :
    attributeChanges left "type" = attributeChanges right "type" := by
  funext command
  simp [attributeChanges, valueChanges]

theorem attributeChanges_value
    {left right : FormControl}
    (sameCheckable : left.isCheckable = right.isCheckable)
    (sameSelect : left.isSelect = right.isSelect)
    (sameTextarea : left.isTextarea = right.isTextarea) :
    attributeChanges left "value" = attributeChanges right "value" := by
  funext command
  simp [attributeChanges, valueChanges, sameCheckable, sameSelect, sameTextarea]

theorem isTemplate_shownText
    {value : Value}
    (plain : Placeholder.isTemplate value.display = false) :
    Placeholder.isTemplate (shownText value) = false := by
  unfold shownText
  split
  · decide
  · decide
  · exact plain

theorem isPlain_attributeChange
    {name : String}
    {command : Command}
    (plainName : Placeholder.isTemplate name = false)
    (plainValue : Placeholder.isTemplate command.value.display = false) :
    (attributeChange name command).IsPlain := by
  unfold attributeChange
  split
  · rintro text ⟨rfl⟩
    exact plainName
  · rintro text ⟨⟩
  · rintro text ⟨rfl⟩
    exact plainValue

theorem isPlain_of_mem_valueChanges
    {control : FormControl}
    {value : Value}
    {name : String}
    {change : SlotChange}
    (plain : Placeholder.isTemplate value.display = false)
    (member : change ∈ valueChanges control value name) :
    change.IsPlain := by
  unfold valueChanges at member
  split at member
  · split at member
    · rw [List.mem_singleton.mp member]
      by_cases checked : isChecked control.value? value = true
      · simp only [checked, ↓reduceIte]
        rintro text ⟨rfl⟩
        decide
      · simp only [checked, Bool.false_eq_true, ↓reduceIte]
        rintro text ⟨⟩
    · exact absurd member List.not_mem_nil
  · split at member
    · exact absurd member List.not_mem_nil
    · split at member
      · rw [List.mem_singleton.mp member]
        rintro text ⟨rfl⟩
        exact plain
      · exact absurd member List.not_mem_nil

theorem solid_listedChange
    (present : Bool)
    {listed : String}
    (solid : Text.IsSolid listed) :
    Text.IsSolid (listedChange present listed).name := by
  unfold listedChange
  split
  · rename_i name inverted
    rw [ClassChange.name_put]
    intro c inName
    rw [String.toList_ofList] at inName
    exact solid c (inverted ▸ List.mem_cons_of_mem _ inName)
  · rw [ClassChange.name_put]
    exact solid

namespace CanRepeat

variable
  {settings : Settings}
  {commands : List Command}
  {element : Element}
  (can : settings.CanRepeat commands element)

include can

theorem writeFree :
    ∀ command ∈ commands, settings.WritesFree command :=
  fun command member => (can.commandsRepeatable command member).writesFree

theorem backupsFree :
    settings.BackupsFree element :=
  fun owner named kept => (can.backupsOrdinary owner named kept).1

theorem control_isOrdinary
    {name : String}
    (member : name ∈ ["type", "value", "checked"]) :
    settings.IsOrdinary name := by
  refine ⟨can.controlsFree name member, ?_⟩
  simp only [List.mem_cons, List.not_mem_nil, or_false] at member
  rcases member with rfl | rfl | rfl <;> decide

theorem backupsOrdinary_rendered :
    ∀ owner, owner ≠ "" →
      (settings.rendered commands element).hasAttribute
          (settings.backupAttribute (some owner)) = true →
        settings.IsOrdinary owner := by
  intro owner named kept
  by_contra notOrdinary
  have notReached :
      ∀ command ∈ commands,
        settings.backupAttribute (some owner) ∉ settings.reached command := by
    intro command member
    refine (can.writeFree command member).backup_not_mem_reached fun written => ?_
    have repeatable := can.commandsRepeatable command member
    exact notOrdinary (repeatable.attributeOrdinary owner written.1 written.2).1
  have notClass : settings.backupAttribute (some owner) ≠ Element.classAttribute :=
    settings.backupAttribute_ne (by decide) owner
  have notFree : ¬settings.IsFree (settings.backupAttribute (some owner)) :=
    fun free => free.ne_backupAttribute (some owner) rfl
  rw [Element.hasAttribute,
    can.backupsFree.attribute?_rendered notClass notFree notReached] at kept
  exact notOrdinary (can.backupsOrdinary owner named kept)

/-- Commands that can be repeated once can be repeated again. -/
theorem rendered :
    settings.CanRepeat commands (settings.rendered commands element) where
  classFree :=
    can.classFree
  controlsFree :=
    can.controlsFree
  markersSolid :=
    can.markersSolid
  backupsOrdinary :=
    can.backupsOrdinary_rendered
  commandsRepeatable :=
    can.commandsRepeatable
  controlsFirst :=
    can.controlsFirst

/-!
## Attributes
-/

theorem attributeSlot_rendered
    {name : String}
    (ordinary : settings.IsOrdinary name) :
    settings.attributeSlot name (settings.rendered commands element) =
      (settings.attributeSlot name element).restore.run
        (commands.flatMap
          (attributeChanges (settings.rendered commands element).formControl name)) := by
  rw [← attributeSlot_restore can.backupsFree ordinary.2.1 ordinary.2.2]
  exact
    attributeSlot_applyAll (can.controlsFree "type" (by decide))
      (can.controlsFree "value" (by decide)) can.writeFree can.controlsFirst ordinary.1
      ordinary.2.1 (settings.restore element)

theorem isPlain_of_mem_attributeChanges
    {control : FormControl}
    {name : String}
    {change : SlotChange}
    (member : change ∈ commands.flatMap (attributeChanges control name)) :
    change.IsPlain := by
  obtain ⟨command, inCommands, inChanges⟩ := List.mem_flatMap.mp member
  have repeatable := can.commandsRepeatable command inCommands
  unfold attributeChanges at inChanges
  cases action : command.action with
  | attr =>
      have plain := repeatable.valuePlain (by simp [action])
      by_cases parameter : command.parameter? = some name
      · have plainName := (repeatable.attributeOrdinary name action parameter).2
        simp only [action, parameter, ↓reduceIte, List.mem_singleton] at inChanges
        rw [inChanges]
        exact isPlain_attributeChange plainName plain
      · simp [action, parameter] at inChanges
  | value =>
      have plain := repeatable.valuePlain (by simp [action])
      simp only [action] at inChanges
      exact isPlain_of_mem_valueChanges plain inChanges
  | _ =>
      simp [action] at inChanges

theorem isPlain_of_mem_textChanges
    {isTextarea : Bool}
    {change : SlotChange}
    (member : change ∈ commands.flatMap (textChanges isTextarea)) :
    change.IsPlain := by
  obtain ⟨command, inCommands, inChanges⟩ := List.mem_flatMap.mp member
  have repeatable := can.commandsRepeatable command inCommands
  unfold textChanges at inChanges
  cases action : command.action with
  | text =>
      have plain := repeatable.valuePlain (by simp [action])
      simp only [action, List.mem_singleton] at inChanges
      rw [inChanges]
      rintro text ⟨rfl⟩
      exact isTemplate_shownText plain
  | html =>
      have plain := repeatable.valuePlain (by simp [action])
      simp only [action, List.mem_singleton] at inChanges
      rw [inChanges]
      rintro text ⟨rfl⟩
      exact plain
  | value =>
      have plain := repeatable.valuePlain (by simp [action])
      simp only [action] at inChanges
      split at inChanges
      · rw [List.mem_singleton.mp inChanges]
        rintro text ⟨rfl⟩
        exact plain
      · exact absurd inChanges List.not_mem_nil
  | _ =>
      simp [action] at inChanges

theorem textBackup_ne_class :
    settings.attributes.backup ≠ Element.classAttribute :=
  (can.classFree.ne_backupAttribute none).symm

theorem textBackup_not_mem_reached
    {command : Command}
    (member : command ∈ commands)
    (notText : command.action ≠ .text) :
    settings.attributes.backup ∉ settings.reached command := by
  have notChecked := (can.controlsFree "checked" (by decide)).ne_backupAttribute none
  have notValue := (can.controlsFree "value" (by decide)).ne_backupAttribute none
  refine (can.writeFree command member).textBackup_not_mem_reached can.textBackup_ne_class
    notText fun _ => ?_
  simpa using ⟨notChecked.symm, notValue.symm⟩

/-- Without commands for the text there is no new backup of it. -/
theorem hasAttribute_textBackup_rendered
    (noText : ∀ command ∈ commands, command.action ≠ .text) :
    (settings.rendered commands element).hasAttribute settings.attributes.backup =
      element.hasAttribute settings.attributes.backup := by
  have notFree : ¬settings.IsFree settings.attributes.backup :=
    fun free => free.ne_backupAttribute none rfl
  have notReached :
      ∀ command ∈ commands, settings.attributes.backup ∉ settings.reached command :=
    fun command member => can.textBackup_not_mem_reached member (noText command member)
  rw [Element.hasAttribute,
    can.backupsFree.attribute?_rendered can.textBackup_ne_class notFree notReached,
    Element.hasAttribute]

theorem textSlot_rendered :
    settings.textSlot (settings.rendered commands element) =
      (settings.textSlot element).restore.run
        (commands.flatMap (textChanges (element.hasTag "textarea"))) := by
  have sameTag :
      (settings.restore element).hasTag "textarea" = element.hasTag "textarea" := by
    rw [Element.hasTag, settings.tag_restore, Element.hasTag]
  rw [← textSlot_restore can.backupsFree can.textBackup_ne_class, ← sameTag]
  exact settings.textSlot_applyAll (fun _ => can.textBackup_not_mem_reached) _

/-- An attribute whose changes stay the same is found again. -/
theorem attributeSlot_again
    {name : String}
    (ordinary : settings.IsOrdinary name)
    (sameChanges :
      attributeChanges
          (settings.rendered commands (settings.rendered commands element)).formControl name =
        attributeChanges (settings.rendered commands element).formControl name) :
    settings.attributeSlot name
        (settings.rendered commands (settings.rendered commands element)) =
      settings.attributeSlot name (settings.rendered commands element) := by
  have again := can.rendered.attributeSlot_rendered ordinary
  rw [sameChanges, can.attributeSlot_rendered ordinary] at again
  rw [again, can.attributeSlot_rendered ordinary]
  exact
    TemplateSlot.run_restore_run
      (fun change member => can.isPlain_of_mem_attributeChanges member)
      (TemplateSlot.restore_restore _)

/-- After a render the element is the form control that it stays. -/
theorem formControl_again :
    (settings.rendered commands (settings.rendered commands element)).formControl =
      (settings.rendered commands element).formControl := by
  have sameTag (tag : String) :
      (settings.rendered commands (settings.rendered commands element)).hasTag tag =
        (settings.rendered commands element).hasTag tag :=
    settings.hasTag_rendered commands _ tag
  have sameType :
      (settings.rendered commands (settings.rendered commands element)).attribute? "type" =
        (settings.rendered commands element).attribute? "type" := by
    have slots := can.attributeSlot_again (can.control_isOrdinary (by decide))
      (attributeChanges_type _ _)
    exact congrArg TemplateSlot.shown? slots
  have sameCheckable :
      (settings.rendered commands (settings.rendered commands element)).isCheckable =
        (settings.rendered commands element).isCheckable := by
    rw [Element.isCheckable, sameTag, sameType, Element.isCheckable]
  have sameValue :
      (settings.rendered commands (settings.rendered commands element)).attribute? "value" =
        (settings.rendered commands element).attribute? "value" := by
    have slots := can.attributeSlot_again (can.control_isOrdinary (by decide))
      (attributeChanges_value sameCheckable (sameTag "select") (sameTag "textarea"))
    exact congrArg TemplateSlot.shown? slots
  unfold Element.formControl
  rw [sameCheckable, sameTag, sameTag, sameValue]

/-- The text is found again. -/
theorem textSlot_again :
    settings.textSlot (settings.rendered commands (settings.rendered commands element)) =
      settings.textSlot (settings.rendered commands element) := by
  have again := can.rendered.textSlot_rendered
  rw [settings.hasTag_rendered, can.textSlot_rendered] at again
  rw [again, can.textSlot_rendered]
  exact
    TemplateSlot.run_restore_run
      (fun change member => can.isPlain_of_mem_textChanges member)
      (TemplateSlot.restore_restore _)

/-!
## The rest of the element
-/

/-- An attribute that is neither ordinary nor a backup, and holds no classes, is left
alone. -/
theorem attribute?_rendered
    {name : String}
    (notOrdinary : ¬settings.IsOrdinary name)
    (notClass : name ≠ Element.classAttribute)
    (notText : name ≠ settings.attributes.backup)
    (notBackup :
      ∀ owner, settings.IsOrdinary owner → name ≠ settings.backupAttribute (some owner)) :
    (settings.rendered commands element).attribute? name = element.attribute? name := by
  have notControl : name ∉ ["type", "value", "checked"] :=
    fun member => notOrdinary (can.control_isOrdinary member)
  have notReached : ∀ command ∈ commands, name ∉ settings.reached command := by
    intro command member
    have repeatable := can.commandsRepeatable command member
    unfold reached
    cases action : command.action with
    | attr =>
        cases parameter : command.parameter? with
        | none =>
            simp
        | some written =>
            have ordinary := (repeatable.attributeOrdinary written action parameter).1
            have different : name ≠ written := by
              rintro rfl
              exact notOrdinary ordinary
            simpa using ⟨different, notBackup written ordinary⟩
    | text =>
        simpa [backupAttribute_none] using notText
    | value =>
        simp_all
    | classes =>
        simpa using notClass
    | toggle =>
        simpa using notClass
    | _ =>
        simp
  rw [Settings.rendered, Element.attribute?_markRemoved,
    settings.attribute?_applyAll notReached]
  by_cases named : name = ""
  · rw [settings.attribute?_restore element notClass, if_pos named, Option.none_or]
  · exact can.backupsFree.attribute?_restore notClass
      fun free => notOrdinary ⟨free, notClass, named⟩

/-- A second render finds all attributes as the first left them, except the classes. -/
theorem attribute?_again
    {name : String}
    (notClass : name ≠ Element.classAttribute) :
    (settings.rendered commands (settings.rendered commands element)).attribute? name =
      (settings.rendered commands element).attribute? name := by
  have slots {owner : String} (ordinary : settings.IsOrdinary owner) :=
    can.attributeSlot_again ordinary
      (congrArg (attributeChanges · owner) can.formControl_again)
  by_cases ordinary : settings.IsOrdinary name
  · exact congrArg TemplateSlot.shown? (slots ordinary)
  · by_cases isText : name = settings.attributes.backup
    · rw [isText]
      exact congrArg TemplateSlot.kept? can.textSlot_again
    · by_cases isBackup :
          ∃ owner, settings.IsOrdinary owner ∧ name = settings.backupAttribute (some owner)
      · obtain ⟨owner, ownerOrdinary, rfl⟩ := isBackup
        exact congrArg TemplateSlot.kept? (slots ownerOrdinary)
      · have notBackup :
            ∀ owner, settings.IsOrdinary owner →
              name ≠ settings.backupAttribute (some owner) :=
          fun owner ownerOrdinary same => isBackup ⟨owner, ownerOrdinary, same⟩
        exact can.rendered.attribute?_rendered ordinary notClass isText notBackup

theorem isHtml_again :
    (settings.rendered commands (settings.rendered commands element)).isHtml =
      (settings.rendered commands element).isHtml := by
  rw [settings.isHtml_rendered, settings.hasTag_rendered, settings.isHtml_rendered]
  cases made : (commands.filterMap (markup? (element.hasTag "textarea"))).getLast? with
  | some isMarkup =>
      rfl
  | none =>
      -- No command makes content, so none makes a backup of the text either.
      have noText : ∀ command ∈ commands, command.action ≠ .text := by
        intro command member isText
        have makesNone := List.getLast?_eq_none_iff.mp made
        rw [List.filterMap_eq_nil_iff] at makesNone
        simpa [markup?, isText] using makesNone command member
      rw [can.hasAttribute_textBackup_rendered noText]
      simp

theorem body_again :
    (settings.rendered commands (settings.rendered commands element)).body =
      (settings.rendered commands element).body := by
  have sameContent := congrArg TemplateSlot.shown? can.textSlot_again
  apply Element.body_eq
  · exact settings.tag_rendered commands _
  · exact Option.some.inj sameContent
  · exact can.isHtml_again
  · exact settings.children_again commands element
  · rw [settings.removed_rendered, settings.removed_rendered, Bool.or_assoc, Bool.or_self]

/-- A second render leaves an element as the first did, except for the classes. -/
theorem sameBut_again :
    Element.SameBut Element.classAttribute
      (settings.rendered commands (settings.rendered commands element))
      (settings.rendered commands element) where
  elsewhere _ notClass :=
    can.attribute?_again notClass
  body :=
    can.body_again

/-!
## The order of the classes
-/

theorem spareClass :
    ∀ command ∈ commands, settings.SparesClass command := by
  intro command member notClasses
  have repeatable := can.commandsRepeatable command member
  unfold reached
  cases action : command.action with
  | attr =>
      cases parameter : command.parameter? with
      | none =>
          simp
      | some name =>
          have ordinary := (repeatable.attributeOrdinary name action parameter).1
          simpa using ⟨ordinary.2.1.symm, can.classFree.ne_backupAttribute (some name)⟩
  | text =>
      simpa using can.classFree.ne_backupAttribute none
  | value =>
      simp [Element.classAttribute]
  | classes =>
      simp [action] at notClasses
  | toggle =>
      simp [action] at notClasses
  | _ =>
      simp

theorem class_not_kept :
    element.attribute? (settings.backupAttribute (some Element.classAttribute)) = none := by
  by_contra present
  have ordinary :=
    can.backupsOrdinary Element.classAttribute (by decide) (Option.isSome_iff_ne_none.mpr present)
  exact ordinary.2.1 rfl

theorem solid_classChanges
    (hidden : Bool)
    {command : Command}
    (member : command ∈ commands) :
    ∀ change ∈ settings.classChanges hidden command, Text.IsSolid change.name := by
  have repeatable := can.commandsRepeatable command member
  unfold classChanges
  cases action : command.action with
  | classes =>
      cases parameter : command.parameter? with
      | none =>
          simp
      | some listed =>
          intro change inChanges
          obtain ⟨name, inList, rfl⟩ := List.mem_map.mp inChanges
          exact solid_listedChange _
            (repeatable.classesSolid listed action parameter name inList)
  | toggle =>
      simp only
      split
      · simp
      · unfold toggleChanges
        split
        · simpa [ClassChange.name] using can.markersSolid.1
        · simpa [ClassChange.name] using can.markersSolid
  | _ =>
      simp

theorem solid_allClassChanges
    {taken : List Command}
    (included : ∀ command ∈ taken, command ∈ commands)
    (hidden : Bool) :
    ∀ change ∈ settings.allClassChanges hidden taken, Text.IsSolid change.name := by
  induction taken generalizing hidden with
  | nil =>
      simp [allClassChanges]
  | cons command taken inductionHypothesis =>
      obtain ⟨includedFirst, includedRest⟩ := List.forall_mem_cons.mp included
      rw [allClassChanges, List.forall_mem_append]
      exact ⟨can.solid_classChanges hidden includedFirst, inductionHypothesis includedRest _⟩

theorem solid_renderedClassChanges :
    ∀ change ∈ settings.renderedClassChanges commands, Text.IsSolid change.name := by
  rw [renderedClassChanges, List.forall_mem_cons, List.forall_mem_cons]
  exact ⟨can.markersSolid.1, can.markersSolid.2,
    can.solid_allClassChanges (fun _ member => member) false⟩

/-- A render runs its class changes on the class attribute. -/
theorem attribute?_class :
    (settings.rendered commands element).attribute? Element.classAttribute =
      ClassChange.runText (settings.renderedClassChanges commands)
        (element.attribute? Element.classAttribute) :=
  attribute?_class_rendered can.spareClass can.class_not_kept can.solid_renderedClassChanges

theorem classes_rendered :
    (settings.rendered commands element).classes =
      ClassChange.run (settings.renderedClassChanges commands) element.classes := by
  rw [Element.classes_eq, can.attribute?_class,
    ClassChange.classWords_runText can.solid_renderedClassChanges, ← Element.classes_eq]

/-- A second render finds the same classes. -/
theorem perm_classes_again :
    (settings.rendered commands (settings.rendered commands element)).classes.Perm
      (settings.rendered commands element).classes := by
  rw [can.rendered.classes_rendered, can.classes_rendered]
  exact ClassChange.perm_run_run _ _

/-- A second render changes nothing at all if it does not change the order of the
classes. -/
theorem rendered_again
    (settled :
      ClassChange.run (settings.renderedClassChanges commands)
          (ClassChange.run (settings.renderedClassChanges commands) element.classes) =
        ClassChange.run (settings.renderedClassChanges commands) element.classes) :
    settings.rendered commands (settings.rendered commands element) =
      settings.rendered commands element := by
  apply can.sameBut_again.eq
  rw [can.rendered.attribute?_class, can.attribute?_class]
  rw [Element.classes_eq] at settled
  exact ClassChange.runText_runText can.solid_renderedClassChanges settled

/-- A third render changes nothing at all. -/
theorem rendered_third :
    settings.rendered commands
        (settings.rendered commands (settings.rendered commands element)) =
      settings.rendered commands (settings.rendered commands element) := by
  apply can.rendered.rendered_again
  rw [can.classes_rendered]
  exact ClassChange.run_run_run _ _

/-- A render keeps the instructions. -/
theorem instruction_rendered
    {source : String}
    (instructed : element.attribute? settings.attributes.instruction = some source) :
    (settings.rendered commands element).attribute? settings.attributes.instruction =
      some source := by
  have notOrdinary : ¬settings.IsOrdinary settings.attributes.instruction :=
    fun ordinary => ordinary.1.1 rfl
  by_cases isText : settings.attributes.instruction = settings.attributes.backup
  · rw [isText] at instructed ⊢
    have kept : (settings.textSlot element).restore.kept? = some source :=
      instructed
    have keptStill := TemplateSlot.kept?_run kept
      (commands.flatMap (textChanges (element.hasTag "textarea")))
    rw [← can.textSlot_rendered] at keptStill
    exact keptStill
  · by_cases isBackup :
        ∃ owner, settings.IsOrdinary owner ∧
          settings.attributes.instruction = settings.backupAttribute (some owner)
    · obtain ⟨owner, ordinary, same⟩ := isBackup
      rw [same] at instructed ⊢
      have kept : (settings.attributeSlot owner element).restore.kept? = some source :=
        instructed
      have keptStill := TemplateSlot.kept?_run kept
        (commands.flatMap
          (attributeChanges (settings.rendered commands element).formControl owner))
      rw [← can.attributeSlot_rendered ordinary] at keptStill
      exact keptStill
    · have notBackup :
          ∀ owner, settings.IsOrdinary owner →
            settings.attributes.instruction ≠ settings.backupAttribute (some owner) :=
        fun owner ordinary same => isBackup ⟨owner, ordinary, same⟩
      rw [can.attribute?_rendered notOrdinary can.classFree.1.symm isText notBackup]
      exact instructed

end CanRepeat

end Settings

/--
Rendering an element again with the same data, by any host that leaves elements
alone, changes nothing but the order of its classes, and a third render changes
nothing at all.  The order stays too if the classes that are never taken away are
added before those that are.
-/
theorem render_again
    {settings : Settings}
    {context : Context}
    {element : Element}
    (can :
      ∀ source, element.attribute? settings.attributes.instruction = some source →
        settings.CanRepeat (activeCommands context source) element)
    {dispatcher : Dispatcher σ}
    (leaves : dispatcher.LeavesElements)
    (firstState secondState thirdState : σ) :
    let first := (settings.render dispatcher context element firstState).2.1
    let second := (settings.render dispatcher context first secondState).2.1
    let third := (settings.render dispatcher context second thirdState).2.1
    Element.SameBut Element.classAttribute second first ∧
      second.classes.Perm first.classes ∧
        third = second ∧
          ((∀ source, element.attribute? settings.attributes.instruction = some source →
              ClassChange.SettlesAtOnce
                (settings.renderedClassChanges (activeCommands context source))) →
            second = first) := by
  intro first second third
  cases instructed : element.attribute? settings.attributes.instruction with
  | none =>
      have sameFirst : first = element :=
        settings.render_element_of_none instructed dispatcher context firstState
      have sameSecond : second = first := by
        have uninstructed := sameFirst.symm ▸ instructed
        exact settings.render_element_of_none uninstructed dispatcher context secondState
      have sameThird : third = second := by
        have uninstructed := sameFirst.symm ▸ instructed
        exact settings.render_element_of_none (sameSecond.symm ▸ uninstructed) dispatcher
          context thirdState
      rw [sameThird, sameSecond]
      exact ⟨.refl _ _, .refl _, rfl, fun _ => rfl⟩
  | some source =>
      have canSource := can source instructed
      have sameFirst : first = settings.rendered (activeCommands context source) element :=
        Settings.render_element instructed leaves context firstState
      have instructedFirst :
          first.attribute? settings.attributes.instruction = some source := by
        rw [sameFirst]
        exact canSource.instruction_rendered instructed
      have sameSecond : second = settings.rendered (activeCommands context source) first :=
        Settings.render_element instructedFirst leaves context secondState
      have instructedSecond :
          second.attribute? settings.attributes.instruction = some source := by
        rw [sameSecond, sameFirst]
        rw [sameFirst] at instructedFirst
        exact canSource.rendered.instruction_rendered instructedFirst
      have sameThird : third = settings.rendered (activeCommands context source) second :=
        Settings.render_element instructedSecond leaves context thirdState
      rw [sameThird, sameSecond, sameFirst]
      refine ⟨canSource.sameBut_again, canSource.perm_classes_again, canSource.rendered_third,
        fun settles => canSource.rendered_again ?_⟩
      exact ClassChange.run_run_of_settlesAtOnce (settles source rfl) _

/-- The instructions of a button that is shown when it is ready, and active then. -/
def readyInstructions : String :=
  "name @title, ready ?, ready .active"

/-- A button with these instructions. -/
def readyButton : Element where
  tag := "button"
  attributes := .ofList [("z-var", readyInstructions), ("title", "Send $\x7bname\x7d")]

/-- The data of a button that is ready. -/
def readyContext : Context :=
  .ofData (.object [("name", .string "mail"), ("ready", .bool true)])

theorem activeCommands_ready :
    activeCommands readyContext readyInstructions =
      [{ Command.ofAction .attr (.string "mail") with
          path? := some "name", parameter? := some "title" },
        { Command.ofAction .toggle (.bool true) with path? := some "ready" },
        { Command.ofAction .classes (.bool true) with
          path? := some "ready", parameter? := some "active" }] :=
  rfl

theorem canRepeat_ready :
    Settings.CanRepeat {} (activeCommands readyContext readyInstructions) readyButton where
  classFree := by
    decide
  controlsFree := by
    decide
  markersSolid := by
    decide
  backupsOrdinary owner named kept := by
    have notInstruction : Settings.backupAttribute {} (some owner) ≠ "z-var" :=
      (Settings.ne_backupAttribute (by decide) (some owner)).symm
    have notTitle : Settings.backupAttribute {} (some owner) ≠ "title" :=
      (Settings.ne_backupAttribute (by decide) (some owner)).symm
    simp [readyButton, Element.hasAttribute, Element.attribute?, Attributes.ofList,
      Attributes.get?_set_of_ne _ notInstruction, Attributes.get?_set_of_ne _ notTitle] at kept
  commandsRepeatable := by
    rw [activeCommands_ready]
    simp only [List.forall_mem_cons, List.not_mem_nil, false_implies, implies_true, and_true]
    refine ⟨⟨?_, ?_, ?_⟩, ⟨?_, ?_, ?_⟩, ⟨?_, ?_, ?_⟩⟩
    · rintro name - ⟨rfl⟩
      decide
    · intro
      decide
    · intro parameter isClasses
      cases isClasses
    · intro name isAttr
      cases isAttr
    · decide
    · intro parameter isClasses
      cases isClasses
    · intro name isAttr
      cases isAttr
    · decide
    · rintro parameter - ⟨rfl⟩
      decide
  controlsFirst := by
    rw [activeCommands_ready]
    decide

/-- The order of the classes of the button settles with the second render. -/
theorem render_again_ready :
    let first := (Settings.render {} .unattended readyContext readyButton ()).2.1
    let second := (Settings.render {} .unattended readyContext first ()).2.1
    let third := (Settings.render {} .unattended readyContext second ()).2.1
    Element.SameBut Element.classAttribute second first ∧
      second.classes.Perm first.classes ∧ third = second := by
  have can :
      ∀ source,
        readyButton.attribute? (Settings.attributes {}).instruction = some source →
          Settings.CanRepeat {} (activeCommands readyContext source) readyButton := by
    intro source instructed
    obtain rfl : readyInstructions = source := Option.some.inj instructed
    exact canRepeat_ready
  obtain ⟨same, classes, settled, -⟩ :=
    render_again can Dispatcher.unattended_leavesElements () () ()
  exact ⟨same, classes, settled⟩

/-- A class that is added behind the marker stands before it after the second render,
in which the marker goes and comes back. -/
theorem render_again_reordersClasses :
    let first := (Settings.render {} .unattended readyContext readyButton ()).2.1
    let second := (Settings.render {} .unattended readyContext first ()).2.1
    (∀ command ∈ activeCommands readyContext readyInstructions,
        Settings.WritesFree {} command) ∧
      first.attribute? "class" = some "z-template-visible active" ∧
        second.attribute? "class" = some "active z-template-visible" :=
  ⟨canRepeat_ready.writeFree, rfl, rfl⟩

end DataBinding
