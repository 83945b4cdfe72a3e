import DataBinding.Value.Basic

namespace DataBinding

/-!
# Contexts and paths

Instructions are evaluated in a context: the data at hand and the data that
enclose it.  A path is a list of segments between dots.  A reserved name in
front is a constant, leading `_parent_` segments step outwards, and the
remaining segments walk into the data.
-/

/-- The data at hand and the data that enclose it, the nearest first. -/
structure Context where
  data : Value
  enclosing : List Value
  deriving Repr, Inhabited

/-- The segment that steps from a context to the one that encloses it. -/
def parentSegment : String :=
  "_parent_"

/-- The segment that asks an array or a string for its length. -/
def lengthSegment : String :=
  "length"

/-- The constants that have names. -/
def reservedValue? (name : String) : Option Value :=
  if name ∈ ["true", "always"] then
    some (.bool true)
  else if name ∈ ["false", "never"] then
    some (.bool false)
  else if name ∈ ["null", "none", "undefined", "z"] then
    some .null
  else
    none

/-- The segments of a path. -/
def pathSegments (path : String) : List String :=
  Text.pieces (· == '.') path

/-- Reads a segment as a position in an array: digits, a plus sign in front
being allowed. -/
def readIndex? (segment : String) : Option Nat :=
  let digits :=
    match segment.toList with
    | '+' :: rest => rest
    | text => text
  if digits ≠ [] ∧ digits.all Char.isDigit then
    some (Nat.ofDigitChars 10 digits 0)
  else
    none

namespace Value

/-- Walks from a value along segments. -/
def follow? : List String → Value → Option Value
  | [], value => some value
  | segment :: rest, object fields =>
      (Fields.get? segment fields).bind (follow? rest)
  | segment :: rest, array items =>
      if segment = lengthSegment ∧ rest = [] then
        some (size items.length)
      else
        ((readIndex? segment).bind fun index => items[index]?).bind (follow? rest)
  | segment :: rest, string text =>
      if segment = lengthSegment ∧ rest = [] then
        some (size text.length)
      else
        none
  | _ :: _, _ => none

end Value

namespace Context

/-- A context that nothing encloses. -/
def ofData (data : Value) : Context where
  data := data
  enclosing := []

/-- The context of data that a context encloses. -/
def child
    (context : Context)
    (data : Value) : Context where
  data := data
  enclosing := context.data :: context.enclosing

/-- The context that encloses a context. -/
def parent? (context : Context) : Option Context :=
  match context.enclosing with
  | [] => none
  | data :: enclosing => some ⟨data, enclosing⟩

/-- The value at the end of segments, after the constants are dealt with. -/
def resolveSegments? : List String → Context → Option Value
  | [], context => some context.data
  | segment :: rest, context =>
      if segment = parentSegment then
        context.parent?.bind (resolveSegments? rest)
      else
        context.data.follow? (segment :: rest)

/-- The value that a path leads to, if there is one. -/
def resolve?
    (context : Context)
    (path : String) : Option Value :=
  let segments := pathSegments path
  match segments.head?.bind reservedValue? with
  | some value => some value
  | none => resolveSegments? segments context

/-- The value that a path leads to, null if there is none. -/
def lookup
    (context : Context)
    (path : String) : Value :=
  (context.resolve? path).getD .null

end Context

end DataBinding
