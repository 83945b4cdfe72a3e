import DataBinding.Text.Blank

namespace DataBinding

/-!
# Repeat markers

A marker names the data behind a repeated region.  In square brackets the data
are a collection with one instance for each of its elements; in braces they are
the data of a single instance.
-/

/-- The value of the attribute that marks a repeated region. -/
structure RepeatMarker where
  name : String
  isSequence : Bool
  deriving Repr, DecidableEq

namespace RepeatMarker

/-- Reads a marker: a name between brackets, with blanks wherever they may be. -/
def read? (text : String) : Option RepeatMarker :=
  match Text.trimChars text.toList with
  | [] => none
  | opening :: rest =>
      match rest.getLast? with
      | none => none
      | some closing =>
          let name := Text.trimChars rest.dropLast
          if name = [] then
            none
          else if opening = '[' ∧ closing = ']' then
            some ⟨String.ofList name, true⟩
          else if opening = '\x7b' ∧ closing = '\x7d' then
            some ⟨String.ofList name, false⟩
          else
            none

/-- The text of a marker. -/
def text (marker : RepeatMarker) : String :=
  if marker.isSequence then
    "[" ++ marker.name ++ "]"
  else
    "\x7b" ++ marker.name ++ "\x7d"

/-- The message about a text that is no marker. -/
def invalidMessage (text : String) : String :=
  "invalid repeat marker '" ++ text ++ "', expected [name] or \x7bname\x7d"

end RepeatMarker

end DataBinding
