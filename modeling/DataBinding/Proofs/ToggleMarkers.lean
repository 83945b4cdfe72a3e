import DataBinding.Proofs.ListedClasses

namespace DataBinding

/-!
# What the markers show

After a render the marker classes show whether all toggles of that render were true.
What earlier renders left behind goes before the commands, and of two toggles that
disagree the false one wins, so neither the past of the element nor the order of the
toggles is to be seen.
-/

namespace Element

variable
  (element : Element)
  {name other : String}

theorem mem_classes_addClass
    (isWord : name ≠ "" ∧ Text.IsSolid name) :
    other ∈ (element.addClass name).classes ↔ other ∈ element.classes ∨ other = name := by
  rw [classes_eq, attribute?_addClass, ClassChange.classWords_applyText_add, ← classes_eq,
    Text.words_singleton isWord.1 isWord.2]
  split
  · rename_i there
    exact ⟨Or.inl, fun member => member.elim id fun same => same ▸ there⟩
  · simp

theorem mem_classes_removeClass :
    other ∈ (element.removeClass name).classes ↔ other ∈ element.classes ∧ other ≠ name := by
  rw [classes_eq, attribute?_removeClass, ClassChange.classWords_applyText_remove,
    ← classes_eq]
  simp

end Element

namespace Settings

/-- Whether the markers are two classes that are told apart, and no template is kept
where the classes are. -/
structure MarkersApart (settings : Settings) : Prop where
  different :
    settings.markers.visible ≠ settings.markers.hidden
  visibleIsWord :
    settings.markers.visible ≠ "" ∧ Text.IsSolid settings.markers.visible
  hiddenIsWord :
    settings.markers.hidden ≠ "" ∧ Text.IsSolid settings.markers.hidden
  notBackup :
    settings.attributes.backup ≠ Element.classAttribute

/-- The classes that a list may be about: the words of its names. -/
def listedWords (parameter : String) : List String :=
  (listedClasses parameter).flatMap fun listed => Text.words (listedName listed)

/-- Whether a command leaves the markers to the toggles: it does not write the class
attribute, and a list of classes does not name a marker. -/
structure LeavesMarkers
    (settings : Settings)
    (command : Command) : Prop where
  notWritten :
    command.action = .attr → command.parameter? ≠ some Element.classAttribute
  notListed :
    command.action = .classes → ∀ parameter, command.parameter? = some parameter →
      settings.markers.visible ∉ listedWords parameter ∧
        settings.markers.hidden ∉ listedWords parameter

/-- The truth values of the toggles among some commands, in order. -/
def toggleTruths (commands : List Command) : List Bool :=
  (commands.filter fun command => command.action = .toggle).map Command.isTruthy

/-- Whether the markers of an element show some truth values: the hidden marker that
one of them is false, the visible one that there are some and all are true. -/
structure Shows
    (settings : Settings)
    (truths : List Bool)
    (element : Element) : Prop where
  hidden :
    element.hasClass settings.markers.hidden = true ↔ false ∈ truths
  visible :
    element.hasClass settings.markers.visible = true ↔ truths ≠ [] ∧ false ∉ truths

theorem Shows.not_both
    {settings : Settings}
    {truths : List Bool}
    {element : Element}
    (shows : settings.Shows truths element) :
    ¬(element.hasClass settings.markers.hidden = true ∧
      element.hasClass settings.markers.visible = true) := by
  rw [shows.hidden, shows.visible]
  rintro ⟨someFalse, -, noneFalse⟩
  exact noneFalse someFalse

/-- The markers depend on how often which truth value occurs at most. -/
theorem Shows.eq_of_perm
    {settings : Settings}
    {truths others : List Bool}
    {element other : Element}
    (shows : settings.Shows truths element)
    (showsOther : settings.Shows others other)
    (same : truths.Perm others) :
    element.hasClass settings.markers.hidden = other.hasClass settings.markers.hidden ∧
      element.hasClass settings.markers.visible = other.hasClass settings.markers.visible := by
  have sameFalse : false ∈ truths ↔ false ∈ others :=
    same.mem_iff
  have sameEmpty : truths = [] ↔ others = [] :=
    ⟨fun none => (none ▸ same).nil_eq.symm, fun none => (none ▸ same).eq_nil⟩
  constructor
  · rw [Bool.eq_iff_iff, shows.hidden, showsOther.hidden, sameFalse]
  · rw [Bool.eq_iff_iff, shows.visible, showsOther.visible, sameFalse, ne_eq, sameEmpty]

/-- Restoring takes both markers away. -/
theorem shows_restore
    (settings : Settings)
    (element : Element) :
    settings.Shows [] (settings.restore element) where
  hidden := by
    rw [Element.hasClass_eq_true, restore, Element.mem_classes_removeClass]
    simp
  visible := by
    rw [Element.hasClass_eq_true, restore, Element.mem_classes_removeClass,
      Element.mem_classes_removeClass]
    simp

section Steps

variable
  {settings : Settings}
  (apart : settings.MarkersApart)

include apart

/-- A toggle shows its truth value together with those before it. -/
theorem Shows.applyToggle
    {truths : List Bool}
    {element : Element}
    (shows : settings.Shows truths element)
    (shown : Bool) :
    settings.Shows (truths ++ [shown]) (settings.applyToggle shown element) := by
  have hidden := shows.hidden
  have visible := shows.visible
  unfold Settings.applyToggle
  by_cases isHidden : element.hasClass settings.markers.hidden = true
  · have someFalse := hidden.mp isHidden
    rw [if_pos isHidden]
    exact
      { hidden := by simp [isHidden, someFalse]
        visible := by simp [visible, someFalse] }
  · have noneFalse : false ∉ truths := fun someFalse => isHidden (hidden.mpr someFalse)
    rw [if_neg isHidden]
    rw [Element.hasClass_eq_true] at isHidden
    cases shown with
    | true =>
        exact
          { hidden := by
              rw [Element.hasClass_eq_true, if_pos rfl,
                Element.mem_classes_addClass _ apart.visibleIsWord]
              simp [isHidden, noneFalse, apart.different.symm]
            visible := by
              rw [Element.hasClass_eq_true, if_pos rfl,
                Element.mem_classes_addClass _ apart.visibleIsWord]
              simp [noneFalse] }
    | false =>
        exact
          { hidden := by
              rw [Element.hasClass_eq_true, if_neg Bool.false_ne_true,
                Element.mem_classes_addClass _ apart.hiddenIsWord]
              simp
            visible := by
              rw [Element.hasClass_eq_true, if_neg Bool.false_ne_true,
                Element.mem_classes_addClass _ apart.hiddenIsWord,
                Element.mem_classes_removeClass]
              simp [apart.different] }

/-- A command that leaves the markers to the toggles reaches the classes only if it is a
toggle or sets classes. -/
theorem LeavesMarkers.class_not_mem_reached
    {command : Command}
    (leaves : settings.LeavesMarkers command)
    (notToggle : command.action ≠ .toggle)
    (notClasses : command.action ≠ .classes) :
    Element.classAttribute ∉ settings.reached command := by
  have notKept (owner : String) :
      Element.classAttribute ≠ settings.backupAttribute (some owner) :=
    (settings.backupAttribute_ne (by decide) owner).symm
  unfold reached
  cases action : command.action with
  | attr =>
      cases parameter : command.parameter? with
      | none =>
          simp
      | some written =>
          have notWritten := leaves.notWritten action
          rw [parameter] at notWritten
          simp only [List.mem_cons, List.not_mem_nil, or_false, not_or]
          exact ⟨fun same => notWritten (congrArg some same.symm), notKept written⟩
  | text =>
      simpa [backupAttribute_none] using apart.notBackup.symm
  | value =>
      simp [Element.classAttribute]
  | classes =>
      exact absurd action notClasses
  | toggle =>
      exact absurd action notToggle
  | _ =>
      simp

/-- A list of classes that names no marker leaves the markers alone. -/
theorem LeavesMarkers.mem_classes_applyClasses
    {command : Command}
    (leaves : settings.LeavesMarkers command)
    (isClasses : command.action = .classes)
    {parameter : String}
    (listing : command.parameter? = some parameter)
    {marker : String}
    (isMarker : marker = settings.markers.visible ∨ marker = settings.markers.hidden)
    (element : Element) :
    marker ∈ (applyClasses command.isTruthy parameter element).classes ↔
      marker ∈ element.classes := by
  have notListed := leaves.notListed isClasses parameter listing
  have markerNotListed : marker ∉ listedWords parameter := by
    rcases isMarker with rfl | rfl
    · exact notListed.1
    · exact notListed.2
  have isWord : marker ≠ "" ∧ Text.IsSolid marker := by
    rcases isMarker with rfl | rfl
    · exact apart.visibleIsWord
    · exact apart.hiddenIsWord
  apply mem_classes_applyClasses_of_untouched
  intro listed member isTouched
  exact markerNotListed (List.mem_flatMap.mpr
    ⟨listed, member, mem_words_of_mem_touchedBy isWord isTouched⟩)

/-- A command that is no toggle leaves the markers alone. -/
theorem LeavesMarkers.mem_classes
    {command : Command}
    (leaves : settings.LeavesMarkers command)
    (notToggle : command.action ≠ .toggle)
    {marker : String}
    (isMarker : marker = settings.markers.visible ∨ marker = settings.markers.hidden)
    (element : Element) :
    marker ∈ (settings.applyImmediate command element).classes ↔ marker ∈ element.classes := by
  by_cases isClasses : command.action = .classes
  · unfold applyImmediate
    rw [isClasses]
    cases listing : command.parameter? with
    | none =>
        rfl
    | some parameter =>
        exact leaves.mem_classes_applyClasses apart isClasses listing isMarker element
  · have notReached := leaves.class_not_mem_reached apart notToggle isClasses
    rw [Element.classes_eq, settings.attribute?_applyImmediate command notReached,
      ← Element.classes_eq]

theorem Shows.applyImmediate
    {truths : List Bool}
    {element : Element}
    {command : Command}
    (shows : settings.Shows truths element)
    (leaves : settings.LeavesMarkers command) :
    settings.Shows (truths ++ toggleTruths [command])
      (settings.applyImmediate command element) := by
  by_cases isToggle : command.action = .toggle
  · have single : toggleTruths [command] = [command.isTruthy] := by
      simp [toggleTruths, isToggle]
    rw [single, Settings.applyImmediate, isToggle]
    exact shows.applyToggle apart command.isTruthy
  · have none : toggleTruths [command] = [] := by
      simp [toggleTruths, isToggle]
    rw [none, List.append_nil]
    constructor
    · rw [Element.hasClass_eq_true, leaves.mem_classes apart isToggle (Or.inr rfl),
        ← Element.hasClass_eq_true]
      exact shows.hidden
    · rw [Element.hasClass_eq_true, leaves.mem_classes apart isToggle (Or.inl rfl),
        ← Element.hasClass_eq_true]
      exact shows.visible

/-- Commands show the truth values of all toggles so far. -/
theorem Shows.applyAll
    {truths : List Bool}
    {element : Element}
    {commands : List Command}
    (shows : settings.Shows truths element)
    (leave : ∀ command ∈ commands, settings.LeavesMarkers command) :
    settings.Shows (truths ++ toggleTruths commands) (settings.applyAll commands element) := by
  induction commands generalizing truths element with
  | nil =>
      rwa [toggleTruths, List.filter_nil, List.map_nil, List.append_nil]
  | cons command commands inductionHypothesis =>
      obtain ⟨leavesFirst, leaveRest⟩ := List.forall_mem_cons.mp leave
      have split : toggleTruths (command :: commands) =
          toggleTruths [command] ++ toggleTruths commands := by
        rw [toggleTruths, toggleTruths, toggleTruths, ← List.map_append, ← List.filter_append,
          List.singleton_append]
      rw [split, ← List.append_assoc]
      exact inductionHypothesis (shows.applyImmediate apart leavesFirst) leaveRest

theorem shows_rendered
    {commands : List Command}
    (leave : ∀ command ∈ commands, settings.LeavesMarkers command)
    (element : Element) :
    settings.Shows (toggleTruths commands) (settings.rendered commands element) := by
  have shows := (settings.shows_restore element).applyAll apart leave
  rw [List.nil_append] at shows
  exact ⟨shows.hidden, shows.visible⟩

end Steps

end Settings

/--
After a render by a host that leaves elements alone, an element has the hidden marker
just if a toggle of that render was false, and the visible one just if there was a
toggle and all were true, whatever classes and backups it had before.  So it never has
both, and the same truth values in another order show the same on any element.
-/
theorem render_showsToggles
    {settings : Settings}
    (apart : settings.MarkersApart)
    {element : Element}
    {source : String}
    (instructed : element.attribute? settings.attributes.instruction = some source)
    {context : Context}
    (leave : ∀ command ∈ activeCommands context source, settings.LeavesMarkers command)
    {dispatcher : Dispatcher σ}
    (leaves : dispatcher.LeavesElements)
    (state : σ) :
    let after := (settings.render dispatcher context element state).2.1
    let toggles :=
      (activeCommands context source).filter fun command => command.action = .toggle
    (after.hasClass settings.markers.hidden = true ↔
        ∃ toggle ∈ toggles, toggle.isTruthy = false) ∧
      (after.hasClass settings.markers.visible = true ↔
        toggles ≠ [] ∧ ∀ toggle ∈ toggles, toggle.isTruthy = true) ∧
      ¬(after.hasClass settings.markers.hidden = true ∧
        after.hasClass settings.markers.visible = true) ∧
      ∀ otherElement otherSource otherContext otherState,
        otherElement.attribute? settings.attributes.instruction = some otherSource →
          (∀ command ∈ activeCommands otherContext otherSource,
            settings.LeavesMarkers command) →
          (Settings.toggleTruths (activeCommands context source)).Perm
              (Settings.toggleTruths (activeCommands otherContext otherSource)) →
            let other :=
              (settings.render dispatcher otherContext otherElement otherState).2.1
            after.hasClass settings.markers.hidden =
                other.hasClass settings.markers.hidden ∧
              after.hasClass settings.markers.visible =
                other.hasClass settings.markers.visible := by
  intro after toggles
  have shows : settings.Shows (toggles.map Command.isTruthy) after := by
    have rendered : after = settings.rendered (activeCommands context source) element :=
      Settings.render_element instructed leaves context state
    rw [rendered]
    exact Settings.shows_rendered apart leave element
  refine ⟨?_, ?_, shows.not_both, ?_⟩
  · rw [shows.hidden, List.mem_map]
  · rw [shows.visible, ne_eq, List.map_eq_nil_iff]
    simp
  · intro otherElement otherSource otherContext otherState otherInstructed otherLeave same
    have rendered :=
      Settings.render_element otherInstructed leaves otherContext otherState
    have showsOther := Settings.shows_rendered apart otherLeave otherElement
    rw [rendered]
    exact shows.eq_of_perm showsOther same

/-- The settings that nobody has changed tell the markers apart. -/
theorem markersApart_default : Settings.MarkersApart {} where
  different := by
    decide
  visibleIsWord := by
    decide
  hiddenIsWord := by
    decide
  notBackup := by
    decide

/-- What a panel does with two toggles and a list of classes. -/
def panelInstructions : String :=
  "loaded ?, wide class 'wide !narrow', open ?"

/-- A panel that an earlier render has shown, and that keeps a template of its classes
in which it is shown too. -/
def shownPanel : Element where
  tag := "div"
  attributes := .ofList [("class", "z-template-visible"), ("z-var", panelInstructions),
    ("z-var-content-class", "panel z-template-visible narrow")]

/-- The data of a wide panel that is loaded and not open. -/
def panelContext : Context :=
  .ofData (.object [("loaded", .bool true), ("open", .bool false), ("wide", .bool true)])

theorem activeCommands_panel :
    activeCommands panelContext panelInstructions =
      [{ Command.ofAction .toggle (.bool true) with path? := some "loaded" },
        { classCommand true "wide !narrow" with path? := some "wide" },
        { Command.ofAction .toggle (.bool false) with path? := some "open" }] :=
  rfl

theorem leavesMarkers_panel :
    ∀ command ∈ activeCommands panelContext panelInstructions,
      Settings.LeavesMarkers {} command := by
  rw [activeCommands_panel]
  simp only [List.forall_mem_cons, List.not_mem_nil, false_implies, implies_true, and_true]
  refine ⟨⟨?_, ?_⟩, ⟨?_, ?_⟩, ⟨?_, ?_⟩⟩
  · decide
  · intro isClasses
    cases isClasses
  · decide
  · rintro - parameter ⟨rfl⟩
    decide
  · decide
  · intro isClasses
    cases isClasses

/-- A panel that was shown is hidden by its second toggle. -/
theorem render_showsToggles_panel :
    let after := (Settings.render {} .unattended panelContext shownPanel ()).2.1
    after.hasClass "z-template-hidden" = true ∧
      after.hasClass "z-template-visible" = false := by
  intro after
  obtain ⟨hidden, -, notBoth, -⟩ :=
    render_showsToggles markersApart_default (rfl : shownPanel.attribute? _ = some _)
      leavesMarkers_panel Dispatcher.unattended_leavesElements ()
  have isHidden : after.hasClass "z-template-hidden" = true := by
    apply hidden.mpr
    rw [activeCommands_panel]
    decide
  exact ⟨isHidden, Bool.eq_false_iff.mpr fun isVisible => notBoth ⟨isHidden, isVisible⟩⟩

/-- A panel that an earlier render has hidden and that has lost its instructions. -/
def leftPanel : Element where
  tag := "div"
  attributes := .ofList [("class", "z-template-hidden")]

/-- Settings with a marker that begins with an exclamation mark. -/
def markedSettings : Settings where
  markers := { visible := "!shown", hidden := "gone" }

/-- A panel whose list of classes has a name with a tab in it. -/
def tabbedPanel : Element where
  tag := "div"
  attributes := .ofList [("z-var", "wide class 'wide\t!shown'")]

/-- Without instructions there is no render, and a marker stays; and a list of classes
puts a marker there that it does not name, if the marker begins with an exclamation mark
and stands behind a tab. -/
theorem render_showsToggles_withoutToggles :
    (leftPanel.attribute? "z-var" = none ∧
        (Settings.render {} .unattended panelContext leftPanel ()).2.1.hasClass
          "z-template-hidden" = true) ∧
      markedSettings.MarkersApart ∧
        activeCommands panelContext "wide class 'wide\t!shown'" =
            [{ classCommand true "wide\t!shown" with path? := some "wide" }] ∧
          ((Text.fieldsBy (fun c => Text.isBlank c || c == ',' || c == '.')
              "wide\t!shown").map Settings.listedName = ["wide", "shown"]) ∧
            (markedSettings.render .unattended panelContext tabbedPanel ()).2.1.hasClass
              "!shown" = true :=
  ⟨⟨rfl, rfl⟩, ⟨by decide, by decide, by decide, by decide⟩, rfl, rfl, rfl⟩

end DataBinding
