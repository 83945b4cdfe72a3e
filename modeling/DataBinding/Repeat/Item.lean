import DataBinding.Repeat.Marker
import DataBinding.Value.ContentHash
import DataBinding.Value.Context

namespace DataBinding

/-!
# Items of repeated regions

Each element behind a repeated region becomes an item: a key that identifies it
from one render to the next, and the data that its instance is rendered with.
-/

/-- The key of a value: its `id` if that is a string or a number, and otherwise a
hash, of the `id` if there is one and of the whole value if not. -/
def Value.itemKey (value : Value) : String :=
  match value.fields?.bind (Fields.get? "id") with
  | some (.string id) => id
  | some (.number id) => id.display
  | some id => id.contentHash
  | none => value.contentHash

/-- One element of the collection behind a repeated region. -/
structure RepeatItem where
  key : String
  data : Value
  deriving Repr

namespace RepeatItem

/-- Data with a value under a key. -/
def entry (key value : Value) : Value :=
  .object [("key", key), ("value", value)]

/-- The item of the element at an index.  Scalars become entries under the index,
collections are data by themselves. -/
def ofElement
    (element : Value)
    (index : Nat) : RepeatItem where
  key := element.itemKey
  data :=
    match element with
    | .array items => .array items
    | .object fields => .object fields
    | scalar => entry (.size index) scalar

/-- The items of elements in order. -/
def ofElements (elements : List Value) : List RepeatItem :=
  elements.mapIdx fun index element => ofElement element index

/-- The elements that a marker finds in a value.  The fields of an object become
entries, and a scalar has no elements. -/
def elements
    (marker : RepeatMarker)
    (value : Value) : List Value :=
  if marker.isSequence then
    match value with
    | .array items => items
    | .object fields => fields.map fun field => entry (.string field.1) field.2
    | _ => []
  else
    [value]

/-- The items of a marker in a context, if it finds data other than null. -/
def collect?
    (marker : RepeatMarker)
    (context : Context) : Option (List RepeatItem) :=
  match context.resolve? marker.name with
  | none => none
  | some .null => none
  | some value => some (ofElements (elements marker value))

end RepeatItem

end DataBinding
