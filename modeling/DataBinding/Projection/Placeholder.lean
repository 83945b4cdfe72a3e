import DataBinding.Text.Percent

namespace DataBinding

/-!
# Placeholders in templates

A template is a text with a placeholder for a variable.  The first placeholder
is replaced by the value; without one, the value replaces the whole template.
In links the placeholder may be percent-encoded, and then the value is encoded
too.
-/

namespace Placeholder

/-- The text in front of the first occurrence of a pattern, and the text behind
it. -/
def split?
    (pattern : List Char) :
    List Char → Option (List Char × List Char)
  | [] => if pattern = [] then some ([], []) else none
  | c :: rest =>
      if pattern.isPrefixOf (c :: rest) then
        some ([], (c :: rest).drop pattern.length)
      else
        (split? pattern rest).map fun parts => (c :: parts.1, parts.2)

/-- Whether a pattern occurs in a text. -/
def occurs (pattern text : List Char) : Bool :=
  (split? pattern text).isSome

/-- A text with the first occurrence of a pattern replaced, if there is one. -/
def replace?
    (pattern replacement text : List Char) : Option (List Char) :=
  (split? pattern text).map fun parts => parts.1 ++ replacement ++ parts.2

/-- The placeholder of a variable. -/
def ofVariable (path : String) : List Char :=
  '$' :: '\x7b' :: path.toList ++ ['\x7d']

/-- The attributes that hold links. -/
def linkAttributes : List String :=
  ["href", "src"]

/-- The characters of a template with its placeholder replaced by a value.  The
attribute is the one that holds the template, if it is in one. -/
def substituteChars
    (template value : List Char)
    (path? attribute? : Option String) : List Char :=
  match path? with
  | none => value
  | some path =>
      match replace? (ofVariable path) value template with
      | some replaced => replaced
      | none =>
          if attribute?.any fun name => linkAttributes.contains name then
            (replace? (Text.percentEncode (ofVariable path)) (Text.percentEncode value)
              template).getD value
          else
            value

/-- A template with its placeholder replaced by a value. -/
def substitute
    (template value : String)
    (path? attribute? : Option String) : String :=
  String.ofList (substituteChars template.toList value.toList path? attribute?)

/-- Whether a text looks like a template with a placeholder. -/
def isTemplate (text : String) : Bool :=
  occurs ['$', '\x7b'] text.toList || occurs ['%', '2', '4', '%', '7', 'B'] text.toList

end Placeholder

end DataBinding
