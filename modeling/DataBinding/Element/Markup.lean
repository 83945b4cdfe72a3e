import DataBinding.Element.Basic

namespace DataBinding

/-!
# Markup of elements

The markup of an element has its attributes in the order of their names.  Text
and attribute values are escaped, markup content is written as it is, and a
removed element leaves nothing.
-/

namespace Element

/-- A character of text, escaped where it has a meaning in markup. -/
def escapedChar (c : Char) : List Char :=
  if c = '&' then
    ['&', 'a', 'm', 'p', ';']
  else if c = '<' then
    ['&', 'l', 't', ';']
  else if c = '>' then
    ['&', 'g', 't', ';']
  else
    [c]

/-- A character of an attribute value, in which quotes are escaped too. -/
def escapedAttributeChar (c : Char) : List Char :=
  if c = '"' then
    ['&', 'q', 'u', 'o', 't', ';']
  else
    escapedChar c

/-- The characters of an attribute. -/
def attributeChars (name value : String) : List Char :=
  ' ' :: name.toList ++ ['=', '"'] ++ value.toList.flatMap escapedAttributeChar ++ ['"']

/-- The characters of the content of an element. -/
def contentChars
    (content : String)
    (isHtml : Bool) : List Char :=
  if isHtml then
    content.toList
  else
    content.toList.flatMap escapedChar

mutual

/-- The characters of an element. -/
def markupChars : Element → List Char
  | ⟨tag, attributes, content, isHtml, children, removed⟩ =>
      if removed then
        []
      else
        '<' :: tag.toList ++
          attributes.fields.flatMap (fun field => attributeChars field.1 field.2) ++ ['>'] ++
          contentChars content isHtml ++ childrenChars children ++
          ['<', '/'] ++ tag.toList ++ ['>']

/-- The characters of child elements. -/
def childrenChars : List Element → List Char
  | [] => []
  | child :: rest => markupChars child ++ childrenChars rest

end

/-- The markup of an element. -/
def markup (element : Element) : String :=
  String.ofList element.markupChars

end Element

end DataBinding
