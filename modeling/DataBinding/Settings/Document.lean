import DataBinding.Settings
import DataBinding.Toml.Document

namespace DataBinding

/-!
# Settings in TOML documents

Every setting has a default, so the empty document is valid.  Names that are no
settings are skipped.  A table of settings may also be written as an array of
its values in order.
-/

namespace Settings

/-- The setting at a place of a table that is written by names or in order.  A
setting that is absent keeps its default, and one that is no string is an
error. -/
def readText?
    (table : Value)
    (name : String)
    (index : Nat)
    (fallback : String) : Option String :=
  let found :=
    match table with
    | .object fields => some (Fields.get? name fields)
    | .array items => some items[index]?
    | _ => none
  match found with
  | some none => some fallback
  | some (some (.string text)) => some text
  | _ => none

/-- The table of settings with a name.  An absent table is empty. -/
def tableOf
    (document : Value)
    (name : String) : Value :=
  ((document.fields?.bind (Fields.get? name)).getD (.object []))

/-- Reads all settings of a document. -/
def ofDocument? (document : Value) : Option Settings := do
  let attributes := tableOf document "attributes"
  let markers := tableOf document "markers"
  let defaults : Settings := {}
  let instruction ← readText? attributes "instruction" 0 defaults.attributes.instruction
  let backup ← readText? attributes "backup_prefix" 1 defaults.attributes.backup
  let visible ← readText? markers "visible" 0 defaults.markers.visible
  let hidden ← readText? markers "hidden" 1 defaults.markers.hidden
  some { attributes := { instruction, backup }, markers := { visible, hidden } }

/-- Reads settings from the text of a document. -/
def read? (text : String) : Option Settings :=
  (Toml.document? text).bind ofDocument?

end Settings

end DataBinding
