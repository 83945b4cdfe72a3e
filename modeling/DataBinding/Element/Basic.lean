import DataBinding.Element.Attributes
import DataBinding.Text.Blank

namespace DataBinding

/-!
# Elements

An element has a tag, attributes, a content and child elements.  Its classes are
the words of one attribute.
-/

/-- An element of a document. -/
structure Element where
  tag : String
  attributes : Attributes := .empty
  /-- Text, or markup if `isHtml` holds. -/
  content : String := ""
  isHtml : Bool := false
  children : List Element := []
  removed : Bool := false
  deriving Repr

instance : Inhabited Element :=
  ⟨{ tag := "" }⟩

namespace Element

/-- The value of an attribute. -/
def attribute?
    (element : Element)
    (name : String) : Option String :=
  element.attributes.get? name

/-- Whether an element has an attribute. -/
def hasAttribute
    (element : Element)
    (name : String) : Bool :=
  (element.attribute? name).isSome

/-- Writes an attribute. -/
def setAttribute
    (element : Element)
    (name value : String) : Element :=
  { element with attributes := element.attributes.set name value }

/-- Removes an attribute. -/
def removeAttribute
    (element : Element)
    (name : String) : Element :=
  { element with attributes := element.attributes.erase name }

/-- Makes a text the content. -/
def setText
    (element : Element)
    (text : String) : Element :=
  { element with content := text, isHtml := false }

/-- Makes markup the content. -/
def setHtml
    (element : Element)
    (html : String) : Element :=
  { element with content := html, isHtml := true }

/-- The attribute that holds the classes. -/
def classAttribute : String :=
  "class"

/-- The classes of an element, in order. -/
def classes (element : Element) : List String :=
  match element.attribute? classAttribute with
  | some names => Text.words names
  | none => []

/-- Whether an element has a class. -/
def hasClass
    (element : Element)
    (name : String) : Bool :=
  element.classes.contains name

/-- Writes the classes of an element. -/
def setClasses
    (element : Element)
    (names : List String) : Element :=
  element.setAttribute classAttribute (String.intercalate " " names)

/-- Adds a class behind the others, unless it is there or has no name. -/
def addClass
    (element : Element)
    (name : String) : Element :=
  if name.isEmpty || element.hasClass name then
    element
  else
    element.setClasses (element.classes ++ [name])

/-- Removes a class, and the attribute with the last one. -/
def removeClass
    (element : Element)
    (name : String) : Element :=
  if element.hasClass name then
    let remaining := element.classes.filter fun other => other ≠ name
    if remaining.isEmpty then
      element.removeAttribute classAttribute
    else
      element.setClasses remaining
  else
    element

/-- Adds or removes a class. -/
def putClass
    (element : Element)
    (name : String)
    (present : Bool) : Element :=
  if present then
    element.addClass name
  else
    element.removeClass name

/-- Whether the tag of an element is a given one, in whatever case of the ASCII
letters. -/
def hasTag
    (element : Element)
    (tag : String) : Bool :=
  element.tag.toList.map Char.toLower == tag.toList.map Char.toLower

/-- Whether an element is a check box or a radio button. -/
def isCheckable (element : Element) : Bool :=
  element.hasTag "input" &&
    (element.attribute? "type" == some "checkbox" || element.attribute? "type" == some "radio")

end Element

end DataBinding
