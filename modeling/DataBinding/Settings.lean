namespace DataBinding

/-!
# Settings

The names of the attributes and classes that rendering reads and writes.
-/

/-- The names of attributes. -/
structure AttributeNames where
  /-- The attribute with the instructions of an element. -/
  instruction : String := "z-var"
  /-- The attribute that keeps a text template, and the beginning of those that
  keep attribute templates. -/
  backup : String := "z-var-content"
  deriving Repr, DecidableEq

/-- The classes that show and hide an element. -/
structure MarkerNames where
  visible : String := "z-template-visible"
  hidden : String := "z-template-hidden"
  deriving Repr, DecidableEq

/-- All settings. -/
structure Settings where
  attributes : AttributeNames := {}
  markers : MarkerNames := {}
  deriving Repr, DecidableEq

namespace Settings

/-- The attribute that keeps the template of an attribute, or of the text. -/
def backupAttribute
    (settings : Settings)
    (attribute? : Option String) : String :=
  match attribute? with
  | some name => settings.attributes.backup ++ "-" ++ name
  | none => settings.attributes.backup

end Settings

end DataBinding
