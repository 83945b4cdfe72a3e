import DataBinding.Fields

namespace DataBinding

/-!
# Attributes of elements

The attributes of an element have distinct names and stand in the order of the
names, however they came about.
-/

/-- The attributes of an element. -/
structure Attributes where
  fields : List (String × String)
  ordered : Fields.Ordered fields
  deriving Repr, DecidableEq

namespace Attributes

/-- No attributes. -/
def empty : Attributes where
  fields := []
  ordered := List.Pairwise.nil

/-- The value of the attribute with a name. -/
def get?
    (attributes : Attributes)
    (name : String) : Option String :=
  Fields.get? name attributes.fields

/-- Writes an attribute. -/
def set
    (attributes : Attributes)
    (name value : String) : Attributes where
  fields := Fields.insert name value attributes.fields
  ordered := Fields.ordered_insert name value attributes.ordered

/-- Removes the attribute with a name. -/
def erase
    (attributes : Attributes)
    (name : String) : Attributes where
  fields := Fields.erase name attributes.fields
  ordered := Fields.ordered_erase name attributes.ordered

/-- The attributes that a list of names and values writes one after the other. -/
def ofList (written : List (String × String)) : Attributes :=
  written.foldl (fun attributes field => attributes.set field.1 field.2) empty

@[simp]
theorem get?_empty
    (name : String) :
    empty.get? name = none :=
  rfl

@[simp]
theorem get?_set_self
    (attributes : Attributes)
    (name value : String) :
    (attributes.set name value).get? name = some value :=
  Fields.get?_insert_self name value attributes.fields

theorem get?_set_of_ne
    (attributes : Attributes)
    {name written : String}
    (different : name ≠ written)
    (value : String) :
    (attributes.set written value).get? name = attributes.get? name :=
  Fields.get?_insert_of_ne different value attributes.fields

@[simp]
theorem get?_erase_self
    (attributes : Attributes)
    (name : String) :
    (attributes.erase name).get? name = none :=
  Fields.get?_erase_self name attributes.fields

theorem get?_erase_of_ne
    (attributes : Attributes)
    {name erased : String}
    (different : name ≠ erased) :
    (attributes.erase erased).get? name = attributes.get? name :=
  Fields.get?_erase_of_ne different attributes.fields

end Attributes

end DataBinding
