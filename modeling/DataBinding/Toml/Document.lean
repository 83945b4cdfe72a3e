import DataBinding.Toml.Table

namespace DataBinding.Toml

/-!
# TOML documents

A document is a list of expressions, one to a line: fields, headers of tables
and comments.  It is read as an object.  Values are read with a budget of steps
that the length of the document bounds.
-/

/-- The name under which the text of a date or time stands. -/
def momentField : String :=
  "$__toml_private_datetime"

/-- The value of a scalar.  A date or time is an object with its text. -/
def Scalar.value : Scalar → Value
  | bool value => .bool value
  | number value => .number value
  | string text => .string text
  | moment text => .object [(momentField, .string text)]

mutual

/-- Reads a value at a depth of nesting. -/
def value? (budget depth : Nat) (text : List Char) : Option (Value × List Char) :=
  match budget with
  | 0 => none
  | budget + 1 =>
      match text with
      | '[' :: rest =>
          if depth + 1 < depthLimit then do
            let (items, after) ← items? budget (depth + 1) rest
            some (.array items, after)
          else
            none
      | '\x7b' :: rest =>
          if depth + 1 < depthLimit then
            match skipBlanks rest with
            | '\x7d' :: after => some (.object [], after)
            | after => do
                let (table, after) ← fields? budget (depth + 1) (.empty .explicit) after
                some (table.value, after)
          else
            none
      | text => (scalar? text).map fun read => (read.1.value, read.2)

/-- Reads the items of an array up to its closing bracket.  A comma may stand
behind the last one. -/
def items? (budget depth : Nat) (text : List Char) : Option (List Value × List Char) :=
  match budget with
  | 0 => none
  | budget + 1 => do
      match ← skipLines false text with
      | ']' :: after => some ([], after)
      | start => do
          let (item, afterItem) ← value? budget depth start
          match ← skipLines false afterItem with
          | ',' :: rest => do
              let (items, after) ← items? budget depth rest
              some (item :: items, after)
          | ']' :: after => some ([item], after)
          | _ => none

/-- Reads the fields of a table in braces up to the closing one. -/
def fields?
    (budget depth : Nat)
    (table : Table)
    (text : List Char) : Option (Table × List Char) :=
  match budget with
  | 0 => none
  | budget + 1 => do
      let (key, afterKey) ← key? text
      let afterSign ← expect? '=' afterKey
      let (value, afterValue) ← value? budget depth (skipBlanks afterSign)
      let table ← putField key (.closed value) table
      match skipBlanks afterValue with
      | ',' :: rest => fields? budget depth table rest
      | '\x7d' :: after => some (table, after)
      | _ => none

end

/-- Reads a header after its opening brackets. -/
def header?
    (isArray : Bool)
    (assembly : Assembly)
    (text : List Char) : Option (Assembly × List Char) := do
  let (path, afterPath) ← key? text
  let afterBracket ← expect? ']' afterPath
  let afterBrackets ← if isArray then expect? ']' afterBracket else some afterBracket
  let rest ← lineRest? afterBrackets
  let assembly ← assembly.begin? isArray path
  some (assembly, rest)

/-- Reads a field on a line of its own. -/
def field?
    (assembly : Assembly)
    (text : List Char) : Option (Assembly × List Char) := do
  let (key, afterKey) ← key? text
  let afterSign ← expect? '=' afterKey
  let (value, afterValue) ← value? (2 * text.length) 0 (skipBlanks afterSign)
  let rest ← lineRest? afterValue
  let assembly ← assembly.put? key value
  some (assembly, rest)

/-- Reads one expression. -/
def expression?
    (assembly : Assembly) :
    List Char → Option (Assembly × List Char)
  | '[' :: '[' :: rest => header? true assembly rest
  | '[' :: rest => header? false assembly rest
  | text =>
      match newline? text with
      | some rest => some (assembly, rest)
      | none =>
          if text.head? = some '#' then
            (lineRest? text).map fun rest => (assembly, rest)
          else
            field? assembly text

/-- Reads expressions to the end of the document. -/
def expressions?
    (budget : Nat)
    (assembly : Assembly)
    (text : List Char) : Option Assembly :=
  match budget with
  | 0 => none
  | budget + 1 =>
      match skipBlanks text with
      | [] => some assembly
      | start => do
          let (assembly, rest) ← expression? assembly start
          expressions? budget assembly rest

/-- Reads a document, a byte order mark in front being skipped. -/
def document? (document : String) : Option Value := do
  let text :=
    match document.toList with
    | '\ufeff' :: rest => rest
    | text => text
  let assembly ← expressions? (text.length + 1) .start text
  let root ← assembly.finished?
  some root.value

end DataBinding.Toml
