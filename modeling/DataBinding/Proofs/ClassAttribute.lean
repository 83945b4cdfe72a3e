import DataBinding.Proofs.ClassOrder
import DataBinding.Proofs.CommandReach

namespace DataBinding

/-!
# Changes of the class attribute

What rendering does to the class attribute is a list of changes that the commands
and the markers decide.  It depends on the text of the attribute alone, and it
brings that text into a normal form as soon as it changes anything.
-/

/-- The classes in the text of a class attribute. -/
def classWords : Option String → List String
  | some names => Text.words names
  | none => []

/-- The class attribute for some classes. -/
def joinedClasses : List String → Option String
  | [] => none
  | names => some (String.intercalate " " names)

theorem joinedClasses_of_ne_nil
    {names : List String}
    (notEmpty : names ≠ []) :
    joinedClasses names = some (String.intercalate " " names) := by
  cases names with
  | nil =>
      exact absurd rfl notEmpty
  | cons first rest =>
      rfl

theorem mem_classWords
    {text? : Option String}
    {name : String}
    (member : name ∈ classWords text?) :
    name ≠ "" ∧ Text.IsSolid name := by
  cases text? with
  | none =>
      exact absurd member List.not_mem_nil
  | some names =>
      exact Text.mem_words member

theorem classWords_joinedClasses
    (names : List String) :
    classWords (joinedClasses names) = names.flatMap Text.words := by
  cases names with
  | nil =>
      rfl
  | cons first rest =>
      exact Text.words_intercalate (first :: rest)

theorem flatMap_words_classWords
    (text? : Option String) :
    (classWords text?).flatMap Text.words = classWords text? :=
  Text.flatMap_words fun _ member => mem_classWords member

namespace ClassChange

/-- The class that a change is about. -/
def name : ClassChange → String
  | add name => name
  | remove name => name

/-- The change that puts a class there or takes it away. -/
def put
    (name : String)
    (present : Bool) : ClassChange :=
  if present then
    .add name
  else
    .remove name

theorem name_put
    (name : String)
    (present : Bool) :
    (put name present).name = name := by
  cases present <;> rfl

/-- Makes a change on the text of a class attribute, which is written anew only if
there is something to change. -/
def applyText
    (text? : Option String)
    (change : ClassChange) : Option String :=
  if apply (classWords text?) change = classWords text? then
    text?
  else
    joinedClasses (apply (classWords text?) change)

/-- Makes changes on the text of a class attribute one after the other. -/
def runText
    (changes : List ClassChange)
    (text? : Option String) : Option String :=
  changes.foldl applyText text?

theorem runText_append
    (first second : List ClassChange)
    (text? : Option String) :
    runText (first ++ second) text? = runText second (runText first text?) := by
  simp [runText]

/-- A name that is added becomes as many classes as it has words. -/
theorem classWords_applyText_add
    (text? : Option String)
    (name : String) :
    classWords (applyText text? (.add name)) =
      if name ∈ classWords text? then
        classWords text?
      else
        classWords text? ++ Text.words name := by
  unfold applyText apply
  by_cases there : name ∈ classWords text?
  · simp only [there, or_true, ↓reduceIte]
  · by_cases named : name = ""
    · subst named
      simp only [there, true_or, ↓reduceIte]
      exact (List.append_nil _).symm
    · have grown : classWords text? ++ [name] ≠ classWords text? := by
        simp
      simp only [named, there, or_self, grown, ↓reduceIte]
      rw [classWords_joinedClasses, List.flatMap_append, flatMap_words_classWords,
        List.flatMap_singleton]

theorem classWords_applyText_remove
    (text? : Option String)
    (name : String) :
    classWords (applyText text? (.remove name)) =
      (classWords text?).filter fun other => other ≠ name := by
  unfold applyText
  split
  · rename_i unchanged
    exact unchanged.symm
  · rw [classWords_joinedClasses]
    exact Text.flatMap_words fun other member => mem_classWords (List.mem_filter.mp member).1

theorem classWords_applyText
    {change : ClassChange}
    (solid : Text.IsSolid change.name)
    (text? : Option String) :
    classWords (applyText text? change) = apply (classWords text?) change := by
  cases change with
  | add name =>
      rw [classWords_applyText_add, apply]
      by_cases named : name = ""
      · subst named
        split
        · exact (if_pos (Or.inl rfl)).symm
        · exact (List.append_nil _).trans (if_pos (Or.inl rfl)).symm
      · simp only [named, false_or, Text.words_singleton named solid]
  | remove name =>
      exact classWords_applyText_remove text? name

section RunText

variable
  {changes : List ClassChange}
  (solid : ∀ change ∈ changes, Text.IsSolid change.name)

include solid

theorem classWords_runText
    (text? : Option String) :
    classWords (runText changes text?) = run changes (classWords text?) := by
  induction changes generalizing text? with
  | nil =>
      rfl
  | cons change changes inductionHypothesis =>
      obtain ⟨solidFirst, solidRest⟩ := List.forall_mem_cons.mp solid
      rw [run_cons, ← classWords_applyText solidFirst]
      exact inductionHypothesis solidRest _

/-- A run leaves the text of the attribute alone, or brings it into normal form. -/
theorem runText_cases
    (text? : Option String) :
    runText changes text? = text? ∨
      runText changes text? = joinedClasses (run changes (classWords text?)) := by
  induction changes generalizing text? with
  | nil =>
      exact Or.inl rfl
  | cons change changes inductionHypothesis =>
      obtain ⟨solidFirst, solidRest⟩ := List.forall_mem_cons.mp solid
      have later :
          runText (change :: changes) text? = runText changes (applyText text? change) :=
        rfl
      have words := classWords_applyText solidFirst text?
      rw [later, run_cons, ← words]
      rcases inductionHypothesis solidRest (applyText text? change) with same | normal
      · rw [same]
        by_cases unchanged : apply (classWords text?) change = classWords text?
        · exact Or.inl (if_pos unchanged)
        · right
          rw [← classWords_runText solidRest, same, words]
          exact if_neg unchanged
      · exact Or.inr normal

/-- A run that finds the classes as it leaves them finds their text so too, if that
came about by such a run. -/
theorem runText_runText
    {text? : Option String}
    (settled :
      run changes (run changes (classWords text?)) = run changes (classWords text?)) :
    runText changes (runText changes text?) = runText changes text? := by
  have words := classWords_runText solid text?
  rcases runText_cases solid (runText changes text?) with same | normal
  · exact same
  · rw [words, settled] at normal
    rcases runText_cases solid text? with sameBefore | normalBefore
    · rw [sameBefore, sameBefore]
    · rw [normal, normalBefore]

end RunText

end ClassChange

/-!
## Changes of elements
-/

namespace Element

theorem classes_eq
    (element : Element) :
    element.classes = classWords (element.attribute? classAttribute) := by
  unfold classes classWords
  cases element.attribute? classAttribute <;> rfl

theorem hasClass_eq_true
    {element : Element}
    {name : String} :
    element.hasClass name = true ↔ name ∈ element.classes := by
  simp [hasClass]

theorem attribute?_addClass
    (element : Element)
    (name : String) :
    (element.addClass name).attribute? classAttribute =
      ClassChange.applyText (element.attribute? classAttribute) (.add name) := by
  rw [ClassChange.applyText, ← classes_eq]
  by_cases there : name = "" ∨ name ∈ element.classes
  · have unchanged : element.addClass name = element := by
      rw [addClass, if_pos]
      simpa [hasClass] using there
    rw [unchanged, ClassChange.apply, if_pos there, if_pos rfl]
  · have grown :
        element.addClass name = element.setClasses (element.classes ++ [name]) := by
      rw [addClass, if_neg]
      simpa [hasClass] using there
    rw [grown, setClasses, attribute?_setAttribute_self, ClassChange.apply, if_neg there,
      if_neg (by simp), joinedClasses_of_ne_nil (by simp)]

theorem attribute?_removeClass
    (element : Element)
    (name : String) :
    (element.removeClass name).attribute? classAttribute =
      ClassChange.applyText (element.attribute? classAttribute) (.remove name) := by
  rw [ClassChange.applyText, ← classes_eq]
  by_cases there : name ∈ element.classes
  · have shrunk : ClassChange.apply element.classes (.remove name) ≠ element.classes := by
      intro same
      rw [← same] at there
      exact (ClassChange.mem_apply_remove.mp there).2 rfl
    rw [removeClass, if_pos (hasClass_eq_true.mpr there), if_neg shrunk]
    simp only [ClassChange.apply]
    cases element.classes.filter fun other => decide (other ≠ name) with
    | nil =>
        exact element.attribute?_removeAttribute_self classAttribute
    | cons first rest =>
        exact element.attribute?_setAttribute_self classAttribute _
  · have unchanged : element.removeClass name = element := by
      rw [removeClass, if_neg]
      simpa [hasClass] using there
    rw [unchanged, if_pos (ClassChange.apply_remove_of_not_mem there)]

theorem attribute?_putClass
    (element : Element)
    (name : String)
    (present : Bool) :
    (element.putClass name present).attribute? classAttribute =
      ClassChange.applyText (element.attribute? classAttribute)
        (.put name present) := by
  cases present with
  | true =>
      exact element.attribute?_addClass name
  | false =>
      exact element.attribute?_removeClass name

end Element

/-!
## Changes by commands
-/

namespace Settings

open Element

/-- The change that a name in a list of classes asks for. -/
def listedChange
    (present : Bool)
    (listed : String) : ClassChange :=
  match listed.toList with
  | '!' :: name => .put (String.ofList name) (!present)
  | _ => .put listed present

theorem listedChange_of_marked
    {listed : String}
    {name : List Char}
    (marked : listed.toList = '!' :: name)
    (present : Bool) :
    listedChange present listed = .put (String.ofList name) (!present) := by
  simp only [listedChange, marked]

theorem listedChange_of_unmarked
    {listed : String}
    (unmarked : ∀ name, listed.toList ≠ '!' :: name)
    (present : Bool) :
    listedChange present listed = .put listed present := by
  unfold listedChange
  split
  · rename_i name marked
    exact absurd marked (unmarked name)
  · rfl

theorem attribute?_putListedClass
    (present : Bool)
    (element : Element)
    (listed : String) :
    (putListedClass present element listed).attribute? classAttribute =
      ClassChange.applyText (element.attribute? classAttribute)
        (listedChange present listed) := by
  unfold putListedClass
  split
  · rename_i name marked
    rw [listedChange_of_marked marked]
    exact element.attribute?_putClass _ _
  · rename_i unmarked
    rw [listedChange_of_unmarked unmarked]
    exact element.attribute?_putClass _ _

theorem attribute?_applyClasses
    (present : Bool)
    (parameter : String)
    (element : Element) :
    (applyClasses present parameter element).attribute? classAttribute =
      ClassChange.runText ((listedClasses parameter).map (listedChange present))
        (element.attribute? classAttribute) := by
  unfold applyClasses
  generalize listedClasses parameter = listed
  induction listed generalizing element with
  | nil =>
      rfl
  | cons name listed inductionHypothesis =>
      rw [List.foldl_cons, inductionHypothesis, attribute?_putListedClass]
      rfl

/-- The changes of classes that a toggle makes, if it makes any. -/
def toggleChanges
    (settings : Settings)
    (shown : Bool) : List ClassChange :=
  if shown then
    [.add settings.markers.visible]
  else
    [.remove settings.markers.visible, .add settings.markers.hidden]

theorem attribute?_applyToggle
    (settings : Settings)
    (shown : Bool)
    (element : Element) :
    (settings.applyToggle shown element).attribute? classAttribute =
      ClassChange.runText
        (if element.hasClass settings.markers.hidden then [] else settings.toggleChanges shown)
        (element.attribute? classAttribute) := by
  unfold applyToggle toggleChanges
  by_cases isHidden : element.hasClass settings.markers.hidden = true
  · simp only [isHidden, ↓reduceIte]
    rfl
  · simp only [isHidden]
    cases shown with
    | true =>
        exact element.attribute?_addClass _
    | false =>
        simp only [Bool.false_eq_true, ↓reduceIte, attribute?_addClass,
          attribute?_removeClass]
        rfl

/-- The changes of classes that a command makes; on a hidden element, toggles make
none. -/
def classChanges
    (settings : Settings)
    (hidden : Bool)
    (command : Command) : List ClassChange :=
  match command.action with
  | .classes =>
      match command.parameter? with
      | some parameter => (listedClasses parameter).map (listedChange command.isTruthy)
      | none => []
  | .toggle => if hidden then [] else settings.toggleChanges command.isTruthy
  | _ => []

/-- Whether an element has the hidden marker after some changes. -/
def hiddenAfter
    (settings : Settings)
    (hidden : Bool)
    (changes : List ClassChange) : Bool :=
  (ClassChange.run changes (if hidden then [settings.markers.hidden] else [])).contains
    settings.markers.hidden

/-- The changes of classes that commands make one after the other. -/
def allClassChanges
    (settings : Settings) :
    Bool → List Command → List ClassChange
  | _, [] => []
  | hidden, command :: commands =>
      let changes := settings.classChanges hidden command
      changes ++ settings.allClassChanges (settings.hiddenAfter hidden changes) commands

/-- The changes of classes in a render: the markers go, and the commands follow. -/
def renderedClassChanges
    (settings : Settings)
    (commands : List Command) : List ClassChange :=
  .remove settings.markers.visible :: .remove settings.markers.hidden ::
    settings.allClassChanges false commands

/-- Whether a command reaches the class attribute by class changes only. -/
def SparesClass
    (settings : Settings)
    (command : Command) : Prop :=
  command.action ∉ [.classes, .toggle] → classAttribute ∉ settings.reached command

theorem attribute?_class_applyImmediate
    {settings : Settings}
    {command : Command}
    (spares : settings.SparesClass command)
    (element : Element) :
    (settings.applyImmediate command element).attribute? classAttribute =
      ClassChange.runText
        (settings.classChanges (element.hasClass settings.markers.hidden) command)
        (element.attribute? classAttribute) := by
  by_cases changesClasses : command.action ∉ [.classes, .toggle]
  · rw [settings.attribute?_applyImmediate command (spares changesClasses)]
    unfold classChanges
    split <;> simp_all [ClassChange.runText]
  · unfold applyImmediate classChanges
    cases action : command.action with
    | classes =>
        cases command.parameter? with
        | none =>
            rfl
        | some parameter =>
            exact attribute?_applyClasses _ parameter element
    | toggle =>
        exact settings.attribute?_applyToggle _ element
    | _ =>
        simp_all

theorem hasClass_of_runText
    (settings : Settings)
    {element changed : Element}
    {changes : List ClassChange}
    (solid : ∀ change ∈ changes, Text.IsSolid change.name)
    (attributeChanged :
      changed.attribute? classAttribute =
        ClassChange.runText changes (element.attribute? classAttribute)) :
    changed.hasClass settings.markers.hidden =
      settings.hiddenAfter (element.hasClass settings.markers.hidden) changes := by
  rw [Bool.eq_iff_iff, hasClass_eq_true, classes_eq, attributeChanged,
    ClassChange.classWords_runText solid, ← classes_eq, hiddenAfter, List.contains_iff_mem]
  apply ClassChange.mem_run_congr
  rw [← hasClass_eq_true]
  cases element.hasClass settings.markers.hidden <;> simp

section Run

variable
  {settings : Settings}
  {commands : List Command}
  {element : Element}

/-- Commands act on the class attribute as all their changes do. -/
theorem attribute?_class_applyAll
    (spare : ∀ command ∈ commands, settings.SparesClass command)
    (solid :
      ∀ change ∈ settings.allClassChanges (element.hasClass settings.markers.hidden) commands,
        Text.IsSolid change.name) :
    (settings.applyAll commands element).attribute? classAttribute =
      ClassChange.runText
        (settings.allClassChanges (element.hasClass settings.markers.hidden) commands)
        (element.attribute? classAttribute) := by
  induction commands generalizing element with
  | nil =>
      rfl
  | cons command commands inductionHypothesis =>
      obtain ⟨sparesFirst, spareRest⟩ := List.forall_mem_cons.mp spare
      rw [allClassChanges, List.forall_mem_append] at solid
      have changed := attribute?_class_applyImmediate sparesFirst element
      have hiddenNext := settings.hasClass_of_runText solid.1 changed
      rw [applyAll, List.foldl_cons, ← applyAll, allClassChanges,
        ClassChange.runText_append, ← changed, ← hiddenNext]
      exact inductionHypothesis spareRest (hiddenNext ▸ solid.2)

theorem attribute?_class_restore
    (noBackup :
      element.attribute? (settings.backupAttribute (some classAttribute)) = none) :
    (settings.restore element).attribute? classAttribute =
      ClassChange.runText
        [.remove settings.markers.visible, .remove settings.markers.hidden]
        (element.attribute? classAttribute) := by
  have unpacked :=
    settings.attribute?_foldl_restoreField element.attributes.ordered element classAttribute
  have notKept :
      Fields.get? (settings.backupAttribute (some classAttribute)) element.attributes.fields =
        none :=
    noBackup
  rw [if_neg (by decide), notKept, Option.none_or] at unpacked
  rw [restore, attribute?_removeClass, attribute?_removeClass, unpacked]
  rfl

/-- A render acts on the class attribute as all its changes do. -/
theorem attribute?_class_rendered
    (spare : ∀ command ∈ commands, settings.SparesClass command)
    (noBackup :
      element.attribute? (settings.backupAttribute (some classAttribute)) = none)
    (solid :
      ∀ change ∈ settings.renderedClassChanges commands, Text.IsSolid change.name) :
    (settings.rendered commands element).attribute? classAttribute =
      ClassChange.runText (settings.renderedClassChanges commands)
        (element.attribute? classAttribute) := by
  have restored := attribute?_class_restore noBackup
  have split :
      settings.renderedClassChanges commands =
        [.remove settings.markers.visible, .remove settings.markers.hidden] ++
          settings.allClassChanges false commands :=
    rfl
  rw [split, List.forall_mem_append] at solid
  have notHidden :
      (settings.restore element).hasClass settings.markers.hidden = false := by
    rw [Bool.eq_false_iff, ne_eq, hasClass_eq_true, classes_eq, restored,
      ClassChange.classWords_runText solid.1]
    intro member
    exact (ClassChange.mem_apply_remove.mp member).2 rfl
  rw [rendered, attribute?_markRemoved,
    attribute?_class_applyAll spare (notHidden.symm ▸ solid.2), notHidden, restored,
    ← ClassChange.runText_append, split]

end Run

end Settings

end DataBinding
