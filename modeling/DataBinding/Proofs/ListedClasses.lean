import DataBinding.Proofs.ClassAttribute

namespace DataBinding

/-!
# Lists of classes

A list of classes tells for each of its names whether the element is to have that
class.  The names stand between spaces, commas and dots, and the classes of an element
between blanks of any kind, so that a name with a tab or a line break in it is written
as one text and read as several classes.  What a list does is told here for all names;
the main statement is about those without blanks.
-/

namespace ClassChange

/-- The classes that a change may put there or take away: those that a name is read
as when it is added, and the name itself when it is removed. -/
def touched : ClassChange → List String
  | add name => Text.words name
  | remove name => [name]

theorem touched_put
    (name : String)
    (present : Bool) :
    (put name present).touched = if present then Text.words name else [name] := by
  cases present <;> rfl

theorem filter_classWords_applyText
    {change : ClassChange}
    {unseen : List String}
    (hidden : change.touched ⊆ unseen)
    (text? : Option String) :
    (classWords (applyText text? change)).filter (fun name => name ∉ unseen) =
      (classWords text?).filter fun name => name ∉ unseen := by
  cases change with
  | add name =>
      have noneLeft :
          (Text.words name).filter (fun word => decide (word ∉ unseen)) = [] := by
        rw [List.filter_eq_nil_iff]
        intro word member
        simpa using hidden member
      rw [classWords_applyText_add]
      split
      · rfl
      · rw [List.filter_append, noneLeft, List.append_nil]
  | remove name =>
      have nameUnseen : name ∈ unseen :=
        hidden (List.mem_singleton_self name)
      rw [classWords_applyText_remove, List.filter_filter]
      apply List.filter_congr
      intro word _
      by_cases same : word = name
      · simp [same, nameUnseen]
      · simp [same]

/-- Changes keep the classes that they do not touch, in their order. -/
theorem filter_classWords_runText
    {changes : List ClassChange}
    {unseen : List String}
    (hidden : ∀ change ∈ changes, change.touched ⊆ unseen)
    (text? : Option String) :
    (classWords (runText changes text?)).filter (fun name => name ∉ unseen) =
      (classWords text?).filter fun name => name ∉ unseen := by
  induction changes generalizing text? with
  | nil =>
      rfl
  | cons change changes inductionHypothesis =>
      obtain ⟨hiddenFirst, hiddenRest⟩ := List.forall_mem_cons.mp hidden
      rw [← filter_classWords_applyText hiddenFirst text?]
      exact inductionHypothesis hiddenRest _

/-- Whether a class is there that no change touches does not change. -/
theorem mem_classWords_runText
    {changes : List ClassChange}
    {name : String}
    (untouched : ∀ change ∈ changes, name ∉ change.touched)
    (text? : Option String) :
    name ∈ classWords (runText changes text?) ↔ name ∈ classWords text? := by
  have hidden : ∀ change ∈ changes, change.touched ⊆ changes.flatMap touched :=
    fun _ member _ inTouched => List.mem_flatMap.mpr ⟨_, member, inTouched⟩
  have outside : name ∉ changes.flatMap touched := by
    rw [List.mem_flatMap]
    rintro ⟨change, member, isTouched⟩
    exact untouched change member isTouched
  have kept := congrArg (name ∈ ·) (filter_classWords_runText hidden text?)
  simpa only [List.mem_filter, outside, not_false_eq_true, decide_true, and_true,
    eq_iff_iff] using kept

/-- What the last change that touches a class does to it stays. -/
theorem mem_classWords_runText_of_last
    {front back : List ClassChange}
    {change : ClassChange}
    {name : String}
    (isTouched : name ∈ change.touched)
    (last : ∀ later ∈ back, name ∉ later.touched)
    (text? : Option String) :
    name ∈ classWords (runText (front ++ change :: back) text?) ↔
      change.added?.isSome = true := by
  have split :
      runText (front ++ change :: back) text? =
        runText back (applyText (runText front text?) change) :=
    runText_append front (change :: back) text?
  rw [split, mem_classWords_runText last]
  cases change with
  | add other =>
      have there :
          name ∈ classWords (applyText (runText front text?) (.add other)) := by
        rw [classWords_applyText_add]
        split
        · rename_i already
          have alone : Text.words other = [other] :=
            Text.words_singleton (mem_classWords already).1 (mem_classWords already).2
          obtain rfl := List.mem_singleton.mp (alone ▸ isTouched : name ∈ [other])
          exact already
        · exact List.mem_append_right _ isTouched
      simpa [added?] using there
  | remove other =>
      obtain rfl := List.mem_singleton.mp isTouched
      simp [classWords_applyText_remove, added?]

end ClassChange

namespace Settings

open Element

/-- A name in a list of classes, without an exclamation mark in front. -/
def listedName (listed : String) : String :=
  match listed.toList with
  | '!' :: name => String.ofList name
  | _ => listed

/-- Whether a name in a list asks for its class to be there.  An exclamation mark in
front turns the truth value round. -/
def asksFor
    (present : Bool)
    (listed : String) : Bool :=
  match listed.toList with
  | '!' :: _ => !present
  | _ => present

/-- The classes that a name in a list may put there or take away.  A name with blanks
in it puts several classes there and takes none away. -/
def touchedBy
    (present : Bool)
    (listed : String) : List String :=
  if asksFor present listed then
    Text.words (listedName listed)
  else
    [listedName listed]

theorem listedChange_eq
    (present : Bool)
    (listed : String) :
    listedChange present listed = .put (listedName listed) (asksFor present listed) := by
  unfold listedChange listedName asksFor
  split <;> simp only [*]

theorem touched_listedChange
    (present : Bool)
    (listed : String) :
    (listedChange present listed).touched = touchedBy present listed := by
  rw [listedChange_eq, ClassChange.touched_put, touchedBy]

theorem added?_listedChange
    (present : Bool)
    (listed : String) :
    (listedChange present listed).added?.isSome = asksFor present listed := by
  rw [listedChange_eq]
  cases asksFor present listed <;> rfl

theorem mem_touchedBy_listedName
    {listed : String}
    (isWord : listedName listed ≠ "" ∧ Text.IsSolid (listedName listed))
    (present : Bool) :
    listedName listed ∈ touchedBy present listed := by
  rw [touchedBy, Text.words_singleton isWord.1 isWord.2, ite_self]
  exact List.mem_singleton_self _

theorem mem_words_of_mem_touchedBy
    {present : Bool}
    {listed name : String}
    (isWord : name ≠ "" ∧ Text.IsSolid name)
    (isTouched : name ∈ touchedBy present listed) :
    name ∈ Text.words (listedName listed) := by
  rw [touchedBy] at isTouched
  split at isTouched
  · exact isTouched
  · obtain rfl := List.mem_singleton.mp isTouched
    rw [Text.words_singleton isWord.1 isWord.2]
    exact List.mem_singleton_self _

section List

variable
  (present : Bool)
  (parameter : String)
  (element : Element)

theorem classes_applyClasses :
    (applyClasses present parameter element).classes =
      classWords
        (ClassChange.runText ((listedClasses parameter).map (listedChange present))
          (element.attribute? classAttribute)) := by
  rw [classes_eq, attribute?_applyClasses]

/-- A list keeps the classes that it does not touch, in their order. -/
theorem filter_classes_applyClasses :
    (applyClasses present parameter element).classes.filter
        (fun name => name ∉ (listedClasses parameter).flatMap (touchedBy present)) =
      element.classes.filter fun name =>
        name ∉ (listedClasses parameter).flatMap (touchedBy present) := by
  rw [classes_applyClasses, classes_eq element]
  apply ClassChange.filter_classWords_runText
  intro change member name inTouched
  obtain ⟨listed, isListed, rfl⟩ := List.mem_map.mp member
  rw [touched_listedChange] at inTouched
  exact List.mem_flatMap.mpr ⟨listed, isListed, inTouched⟩

/-- The last name in a list that touches a class decides about it. -/
theorem mem_classes_applyClasses
    {parameter : String}
    {front back : List String}
    {listed name : String}
    (split : listedClasses parameter = front ++ listed :: back)
    (isTouched : name ∈ touchedBy present listed)
    (last : ∀ later ∈ back, name ∉ touchedBy present later) :
    name ∈ (applyClasses present parameter element).classes ↔
      asksFor present listed = true := by
  rw [classes_applyClasses, split, List.map_append, List.map_cons,
    ClassChange.mem_classWords_runText_of_last, added?_listedChange]
  · rwa [touched_listedChange]
  · intro change member
    obtain ⟨later, isLater, rfl⟩ := List.mem_map.mp member
    rw [touched_listedChange]
    exact last later isLater

/-- A class that no name in a list touches stays there or away. -/
theorem mem_classes_applyClasses_of_untouched
    {name : String}
    (untouched : ∀ listed ∈ listedClasses parameter, name ∉ touchedBy present listed) :
    name ∈ (applyClasses present parameter element).classes ↔ name ∈ element.classes := by
  rw [classes_applyClasses, classes_eq element]
  apply ClassChange.mem_classWords_runText
  intro change member
  obtain ⟨listed, isListed, rfl⟩ := List.mem_map.mp member
  rw [touched_listedChange]
  exact untouched listed isListed

end List

end Settings

open Settings in
/--
A command for classes sets the classes of its list and nothing else.  A name without
blanks is a class of the element afterwards if the name asks for it, and it is none
otherwise, unless a later name in the list is about the same class.  All classes that
no name in the list is about stay as they are, in their order.
-/
theorem classes_setAsListed
    (settings : Settings)
    {command : Command}
    {parameter : String}
    (setsClasses : command.action = .classes)
    (listing : command.parameter? = some parameter)
    (element : Element) :
    let after := settings.applyImmediate command element
    let touched := (listedClasses parameter).flatMap (touchedBy command.isTruthy)
    (∀ front listed back,
        listedClasses parameter = front ++ listed :: back →
          listedName listed ≠ "" →
            Text.IsSolid (listedName listed) →
              (∀ later ∈ back, listedName listed ∉ touchedBy command.isTruthy later) →
                after.hasClass (listedName listed) = asksFor command.isTruthy listed) ∧
      after.classes.filter (fun name => name ∉ touched) =
        element.classes.filter (fun name => name ∉ touched) ∧
      Element.SameBut Element.classAttribute after element := by
  intro after touched
  have changed : after = applyClasses command.isTruthy parameter element := by
    simp only [after, applyImmediate, setsClasses, listing]
  rw [changed]
  refine ⟨?_, filter_classes_applyClasses _ _ _, applyClasses_sameBut _ _ _⟩
  intro front listed back split named solid last
  rw [Bool.eq_iff_iff, Element.hasClass_eq_true]
  exact
    mem_classes_applyClasses command.isTruthy element split
      (mem_touchedBy_listedName ⟨named, solid⟩ _) last

/-- A command that sets the classes of a list. -/
def classCommand
    (present : Bool)
    (parameter : String) : Command :=
  { Command.ofAction .classes (.bool present) with parameter? := some parameter }

/-- An item of a list that is open. -/
def openItem : Element where
  tag := "li"
  attributes := .ofList [("class", "item\topen  wide")]

/-- An item that is done is no longer open, and keeps its other classes. -/
theorem classes_setAsListed_doneItem :
    let after := Settings.applyImmediate {} (classCommand true "open,.done !open") openItem
    after.hasClass "done" = true ∧ after.hasClass "open" = false ∧
      after.classes.filter (fun name => name ∉ ["open", "done", "open"]) =
        ["item", "wide"] := by
  obtain ⟨set, kept, -⟩ :=
    @classes_setAsListed {} (classCommand true "open,.done !open") _ rfl rfl openItem
  exact
    ⟨set ["open"] "done" ["!open"] rfl (by decide) (by decide) (by decide),
      set ["open", "done"] "!open" [] rfl (by decide) (by decide) (by decide), kept⟩

/-- A name with a tab in it is no class of the element when it is to be there, but two
classes that the list does not name; and these are not taken away again. -/
theorem classes_setAsListed_tabbedName :
    let shown := Settings.applyImmediate {} (classCommand true "a\tb") { tag := "li" }
    let hidden := Settings.applyImmediate {} (classCommand false "a\tb") shown
    Settings.listedClasses "a\tb" = ["a\tb"] ∧
      shown.hasClass "a\tb" = false ∧
        shown.classes = ["a", "b"] ∧ hidden.classes = ["a", "b"] :=
  ⟨rfl, rfl, rfl, rfl⟩

end DataBinding
