import DataBinding.Toml.Scalar
import DataBinding.Value.Basic

namespace DataBinding.Toml

/-!
# Tables of TOML documents

A table remembers how it came about, because that decides what may still be
added to it: by its own header or braces, on the way to another table, or by a
key with dots.  A key is never written twice.
-/

/-- How a table came about. -/
inductive Origin where
  | explicit
  | implied
  | dotted
  deriving Repr, DecidableEq

/-- What a key of a table holds: a closed value, a table, or the tables of an
array that headers with double brackets make, the last of them last. -/
inductive Node where
  | closed (value : Value)
  | table (origin : Origin) (fields : List (String × Node))
  | tables (items : List (List (String × Node)))
  deriving Repr

/-- The fields of a table and how it came about. -/
structure Table where
  origin : Origin
  fields : List (String × Node)
  deriving Repr

mutual

/-- The value that a key holds. -/
def Node.value : Node → Value
  | .closed value => value
  | .table _ fields => .object (fieldValues fields)
  | .tables items => .array (tableValues items)

/-- The values of the fields of a table. -/
def fieldValues : List (String × Node) → List (String × Value)
  | [] => []
  | (name, node) :: rest => (name, node.value) :: fieldValues rest

/-- The values of the tables of an array. -/
def tableValues : List (List (String × Node)) → List Value
  | [] => []
  | fields :: rest => .object (fieldValues fields) :: tableValues rest

end

/-- The value of a table. -/
def Table.value (table : Table) : Value :=
  .object (fieldValues table.fields)

/-- A table without fields. -/
def Table.empty (origin : Origin) : Table :=
  ⟨origin, []⟩

/-- What is done to the table at the end of a path, with a result. -/
abbrev Change (α : Type) : Type :=
  Table → Option (α × Table)

/-- Changes the table that a path leads to.  Tables that are missing on the way
come about as the path is one of a header or of a key with dots; a key with
dots cannot go through a table that has been defined explicitly. -/
def changeAt
    (byDots : Bool)
    (change : Change α) :
    List String → Change α
  | [], table => change table
  | name :: path, table =>
      let put (node : Node) : Table :=
        { table with fields := Fields.insert name node table.fields }
      match Fields.get? name table.fields with
      | none => do
          let origin := if byDots then Origin.dotted else .implied
          let (result, made) ← changeAt byDots change path (.empty origin)
          some (result, put (.table made.origin made.fields))
      | some (.closed _) => none
      | some (.table origin fields) =>
          if byDots && origin == .explicit then
            none
          else do
            let (result, changed) ← changeAt byDots change path ⟨origin, fields⟩
            some (result, put (.table changed.origin changed.fields))
      | some (.tables items) =>
          match items.getLast? with
          | none => none
          | some fields => do
              let (result, changed) ← changeAt byDots change path ⟨.explicit, fields⟩
              some (result, put (.tables (items.dropLast ++ [changed.fields])))

/-- Writes under a name that must be new. -/
def putNew
    (name : String)
    (node : Node) : Change Unit :=
  fun table =>
    if Fields.contains name table.fields then
      none
    else
      some ((), { table with fields := Fields.insert name node table.fields })

/-- Writes under a key with dots: the tables on the way must have come about by
dots, and the name at the end must be new. -/
def putField
    (key : List String)
    (node : Node)
    (table : Table) : Option Table :=
  match key.getLast? with
  | none => none
  | some name =>
      let path := key.dropLast
      let change : Change Unit := fun target =>
        if (target.origin == .dotted) == path.isEmpty then
          none
        else
          putNew name node target
      (changeAt true change path table).map Prod.snd

/-- Takes out what a header with single brackets goes on with: the fields of a
table that was only implied, or none. -/
def takeImplied (name : String) : Change (List (String × Node)) :=
  fun table =>
    match Fields.get? name table.fields with
    | none => some ([], table)
    | some (.table .implied fields) =>
        some (fields, { table with fields := Fields.erase name table.fields })
    | some _ => none

/-- Checks that a header with double brackets finds an array of tables or
nothing. -/
def checkTables (name : String) : Change Unit :=
  fun table =>
    match Fields.get? name table.fields with
    | none => some ((), table)
    | some (.tables _) => some ((), table)
    | some _ => none

/-- Adds a table to the array under a name. -/
def appendTable
    (name : String)
    (fields : List (String × Node)) : Change Unit :=
  fun table =>
    let put (items : List (List (String × Node))) : Table :=
      { table with fields := Fields.insert name (.tables items) table.fields }
    match Fields.get? name table.fields with
    | none => some ((), put [fields])
    | some (.tables items) => some ((), put (items ++ [fields]))
    | some _ => none

/-- The document so far: the tables that are complete, the table under way, and
the header that it is under. -/
structure Assembly where
  root : Table
  current : Table
  path : List String
  isArray : Bool
  deriving Repr

namespace Assembly

/-- A document without expressions. -/
def start : Assembly where
  root := .empty .explicit
  current := .empty .explicit
  path := []
  isArray := false

/-- Puts the table under way in its place. -/
def finished? (assembly : Assembly) : Option Table :=
  match assembly.path.getLast? with
  | none => some assembly.current
  | some name =>
      let fields := assembly.current.fields
      let change :=
        if assembly.isArray then
          appendTable name fields
        else
          putNew name (.table .explicit fields)
      (changeAt false change assembly.path.dropLast assembly.root).map Prod.snd

/-- Begins the table under a header. -/
def begin?
    (isArray : Bool)
    (path : List String)
    (assembly : Assembly) : Option Assembly := do
  let root ← assembly.finished?
  let name ← path.getLast?
  if isArray then
    let ((), root) ← changeAt false (checkTables name) path.dropLast root
    some { root, current := .empty .explicit, path, isArray }
  else
    let (fields, root) ← changeAt false (takeImplied name) path.dropLast root
    some { root, current := ⟨.explicit, fields⟩, path, isArray }

/-- Writes a field of the table under way. -/
def put?
    (key : List String)
    (value : Value)
    (assembly : Assembly) : Option Assembly :=
  (putField key (.closed value) assembly.current).map fun current =>
    { assembly with current := current }

end Assembly

end DataBinding.Toml
