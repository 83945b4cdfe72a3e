import DataBinding.Element.Basic
import DataBinding.Instruction.Command
import DataBinding.Projection.Placeholder
import DataBinding.Settings

namespace DataBinding

/-!
# Immediate changes

The changes that commands make to an element by themselves.  A template that a
value is put into is kept in a backup attribute, so that the next render finds
it again.
-/

namespace Settings

/-- Puts the template in an attribute back in its place, if the attribute is one
that keeps a template. -/
def restoreField
    (settings : Settings)
    (element : Element)
    (name template : String) : Element :=
  let backup := settings.attributes.backup.toList
  if backup.isPrefixOf name.toList then
    match name.toList.drop backup.length with
    | [] => element.setText template
    | '-' :: c :: rest => element.setAttribute (String.ofList (c :: rest)) template
    | _ => element
  else
    element

/-- An element with all that was backed up in place again, and without the marker
classes. -/
def restore
    (settings : Settings)
    (element : Element) : Element :=
  let restored := element.attributes.fields.foldl
    (fun changed field => settings.restoreField changed field.1 field.2) element
  (restored.removeClass settings.markers.visible).removeClass settings.markers.hidden

/-- Keeps the template of an attribute or of the text, the first time that a
placeholder in it is replaced. -/
def backUp
    (settings : Settings)
    (attribute? : Option String)
    (template result : String)
    (element : Element) : Element :=
  let backup := settings.backupAttribute attribute?
  if template ≠ result ∧ template ≠ "" ∧ Placeholder.isTemplate template = true ∧
      element.hasAttribute backup = false then
    element.setAttribute backup template
  else
    element

/-- Writes the value of a command into an attribute.  Truth values set and remove
the attribute. -/
def applyAttribute
    (settings : Settings)
    (command : Command)
    (name : String)
    (element : Element) : Element :=
  match command.value with
  | .bool true => element.setAttribute name name
  | .bool false => element.removeAttribute name
  | value =>
      let template := (element.attribute? name).getD ""
      let result := Placeholder.substitute template value.display command.path? (some name)
      (settings.backUp (some name) template result element).setAttribute name result

/-- The text that a value is shown as: null and false are shown as nothing. -/
def shownText : Value → String
  | .null => ""
  | .bool false => ""
  | value => value.display

/-- Writes the value of a command into the text. -/
def applyText
    (settings : Settings)
    (command : Command)
    (element : Element) : Element :=
  let template := element.content
  let result := Placeholder.substitute template (shownText command.value) command.path? none
  (settings.backUp none template result element).setText result

/-- What an option submits: its value attribute, or its text. -/
def optionValue (option : Element) : String :=
  (option.attribute? "value").getD option.content

/-- Marks an option as selected or not; other elements stay as they are. -/
def selectOption
    (wanted : String)
    (child : Element) : Element :=
  if child.hasTag "option" then
    if optionValue child = wanted then
      child.setAttribute "selected" "selected"
    else
      child.removeAttribute "selected"
  else
    child

/-- Whether a check box with some value attribute is checked for a value. -/
def isChecked
    (attribute? : Option String) :
    Value → Bool
  | .bool value => value
  | value => attribute? == some value.display

/-- Puts the value of a command into a form control. -/
def applyValue
    (command : Command)
    (element : Element) : Element :=
  let shown := command.value.display
  if element.isCheckable then
    if isChecked (element.attribute? "value") command.value then
      element.setAttribute "checked" "checked"
    else
      element.removeAttribute "checked"
  else if element.hasTag "select" then
    { element with children := element.children.map (selectOption shown) }
  else if element.hasTag "textarea" then
    element.setText shown
  else
    element.setAttribute "value" shown

/-- Puts a class as a name in a list of classes asks for; an exclamation mark in
front turns the truth value round. -/
def putListedClass
    (present : Bool)
    (element : Element)
    (listed : String) : Element :=
  match listed.toList with
  | '!' :: name => element.putClass (String.ofList name) (!present)
  | _ => element.putClass listed present

/-- The names in a list of classes. -/
def listedClasses (parameter : String) : List String :=
  Text.fieldsBy (fun c => c == ' ' || c == ',' || c == '.') parameter

/-- Puts all the classes in a list. -/
def applyClasses
    (present : Bool)
    (parameter : String)
    (element : Element) : Element :=
  (listedClasses parameter).foldl (putListedClass present) element

/-- Shows or hides an element by the marker classes.  What is hidden stays so. -/
def applyToggle
    (settings : Settings)
    (shown : Bool)
    (element : Element) : Element :=
  if element.hasClass settings.markers.hidden then
    element
  else if shown then
    element.addClass settings.markers.visible
  else
    (element.removeClass settings.markers.visible).addClass settings.markers.hidden

/-- The change that a command makes to an element by itself.  Deferred commands
make none. -/
def applyImmediate
    (settings : Settings)
    (command : Command)
    (element : Element) : Element :=
  match command.action with
  | .attr =>
      match command.parameter? with
      | some name => settings.applyAttribute command name element
      | none => element
  | .text => settings.applyText command element
  | .html => element.setHtml command.value.display
  | .value => applyValue command element
  | .classes =>
      match command.parameter? with
      | some parameter => applyClasses command.isTruthy parameter element
      | none => element
  | .toggle => settings.applyToggle command.isTruthy element
  | .debugger => element
  | .remove => element
  | .event => element
  | .call => element

end Settings

end DataBinding
