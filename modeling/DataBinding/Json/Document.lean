import DataBinding.Json.Lexer

namespace DataBinding.Json

/-!
# Values of JSON documents

The parts of a document are put together by a machine with a stack: one entry
for each array or object that is open.  Of two fields with one name the later
stays.  A document that nests too deeply is refused.
-/

/-- An array or object that is open: what it holds so far, and, in an object,
the name of the field under way. -/
inductive Container where
  | array (items : List Value)
  | object (fields : List (String × Value)) (name : String)
  deriving Repr

/-- What may come next. -/
inductive Expectation where
  | value
  | itemOrEnd
  | fieldOrEnd
  | field
  | colon
  | commaOrEnd
  | nothing (document : Value)
  deriving Repr

/-- The containers that are open, the innermost first, and what may come next. -/
structure Assembly where
  opened : List Container
  expected : Expectation
  deriving Repr

namespace Assembly

/-- The start of a document. -/
def start : Assembly where
  opened := []
  expected := .value

/-- Puts a value in its place. -/
def place
    (value : Value) :
    List Container → Assembly
  | [] => ⟨[], .nothing value⟩
  | .array items :: outer => ⟨.array (items ++ [value]) :: outer, .commaOrEnd⟩
  | .object fields name :: outer =>
      ⟨.object (Fields.insert name value fields) name :: outer, .commaOrEnd⟩

/-- Opens a container, if the nesting stays below the limit. -/
def openContainer
    (limit : Nat)
    (container : Container)
    (opened : List Container)
    (expected : Expectation) : Option Assembly :=
  if opened.length + 1 < limit then
    some ⟨container :: opened, expected⟩
  else
    none

/-- Closes the innermost container with its mark. -/
def close
    (mark : Char) :
    List Container → Option Assembly
  | .array items :: outer =>
      if mark = ']' then some (place (.array items) outer) else none
  | .object fields _ :: outer =>
      if mark = '\x7d' then some (place (.object fields) outer) else none
  | [] => none

/-- Begins a value. -/
def beginValue
    (limit : Nat)
    (opened : List Container) :
    Part → Option Assembly
  | .scalar value => some (place value opened)
  | .mark '[' => openContainer limit (.array []) opened .itemOrEnd
  | .mark '\x7b' => openContainer limit (.object [] "") opened .fieldOrEnd
  | .mark _ => none

/-- Begins a field with its name. -/
def beginField
    (opened : List Container)
    (part : Part) : Option Assembly :=
  match opened, part with
  | .object fields _ :: outer, .scalar (.string name) =>
      some ⟨.object fields name :: outer, .colon⟩
  | _, _ => none

/-- Takes the next part of the document. -/
def take
    (limit : Nat)
    (assembly : Assembly)
    (part : Part) : Option Assembly :=
  let opened := assembly.opened
  match assembly.expected, part with
  | .value, part => beginValue limit opened part
  | .itemOrEnd, .mark ']' => close ']' opened
  | .itemOrEnd, part => beginValue limit opened part
  | .fieldOrEnd, .mark '\x7d' => close '\x7d' opened
  | .fieldOrEnd, part => beginField opened part
  | .field, part => beginField opened part
  | .colon, .mark ':' => some ⟨opened, .value⟩
  | .commaOrEnd, .mark ',' =>
      match opened with
      | .array _ :: _ => some ⟨opened, .value⟩
      | .object _ _ :: _ => some ⟨opened, .field⟩
      | [] => none
  | .commaOrEnd, .mark c => close c opened
  | _, _ => none

/-- The document, if it is complete. -/
def finished? (assembly : Assembly) : Option Value :=
  match assembly.expected with
  | .nothing document => some document
  | _ => none

end Assembly

/-- How documents are read: the first depth of nesting that is refused, and the
rule for numerals. -/
structure Reading where
  limit : Nat
  number : Numeral → Option Number

/-- The rules for documents with data. -/
def Reading.standard : Reading where
  limit := 128
  number := Numeral.value?

/-- Reads a document. -/
def Reading.document?
    (reading : Reading)
    (text : String) : Option Value :=
  (parts? reading.number text).bind fun parts =>
    (parts.foldlM (Assembly.take reading.limit) .start).bind Assembly.finished?

end DataBinding.Json
