import DataBinding.CommandLine.Arguments

namespace DataBinding.CommandLine

/-!
# Tasks of the command line

A command line names a task and its parameters.  The switches for settings may
stand in front of the name of the task or behind it.
-/

/-- What a command line asks for. -/
inductive Task where
  | tokens (source : String)
  | prepare (source : String) (data? : Option String)
  | render
      (source tag : String)
      (text? : Option String)
      (attributes : List String)
      (data? : Option String)
  | diff (previous current : String)
  deriving Repr, DecidableEq

/-- A task and the file with the settings, if one is named. -/
structure Request where
  config? : Option String
  task : Task
  deriving Repr, DecidableEq

/-- The switches of all tasks. -/
def commonSwitches : List Switch :=
  [⟨"config", some 'c', .path⟩, ⟨"verbose", some 'v', .nothing⟩, helpSwitch]

/-- The switch that names the file with the data. -/
def dataSwitch : Switch :=
  ⟨"data", some 'd', .path⟩

/-- A kind of task: its name, its own switches, whether it takes a source as a
plain word, and the task that its arguments describe. -/
structure TaskKind where
  name : String
  switches : List Switch
  takesSource : Bool
  task : String → Arguments → Task

/-- All kinds of tasks. -/
def taskKinds : List TaskKind :=
  [{ name := "tokens"
     switches := []
     takesSource := true
     task := fun source _ => .tokens source },
   { name := "prepare"
     switches := [dataSwitch]
     takesSource := true
     task := fun source arguments => .prepare source (arguments.value? "data") },
   { name := "render"
     switches :=
      [⟨"tag", none, .text⟩, ⟨"text", none, .text⟩, ⟨"attr", none, .texts⟩, dataSwitch]
     takesSource := true
     task := fun source arguments =>
      .render source ((arguments.value? "tag").getD "div") (arguments.value? "text")
        (arguments.values "attr") (arguments.value? "data") },
   { name := "diff"
     switches := [⟨"previous", none, .text⟩, ⟨"current", none, .text⟩]
     takesSource := false
     task := fun _ arguments =>
      .diff ((arguments.value? "previous").getD "") ((arguments.value? "current").getD "") }]

/-- The kind of task with a name. -/
def taskKind? (name : String) : Option TaskKind :=
  taskKinds.find? fun kind => kind.name == name

/-- The word that asks for help. -/
def helpWord : String :=
  "help"

/-- Whether a word asks for help or names a task. -/
def isTaskName (word : String) : Bool :=
  word == helpWord || (taskKind? word).isSome

/-- What the word for help leads to: help, also on one task that is named behind
it. -/
def refusalOfHelp : List String → Refusal
  | [] => .help
  | [name] => if isTaskName name then .help else .usage
  | _ => .usage

namespace TaskKind

/-- Reads the arguments behind the name of a task. -/
def readTask
    (kind : TaskKind)
    (arguments : List String) : Except Refusal (Arguments × Task) := do
  let known := kind.switches ++ commonSwitches
  if kind.takesSource then
    let read ← readArguments known 1 arguments
    match read.words with
    | [source] => .ok (read, kind.task source read)
    | _ => .error .usage
  else
    let read ← readArguments known 0 arguments
    .ok (read, kind.task "" read)

end TaskKind

/-- Reads a command line.  Settings named behind the task count before those named
in front of it, and what stands last in front of the task is looked at after what
stands behind it. -/
def readRequest (arguments : List String) : Except Refusal Request := do
  let (reader, stopped?) ←
    ArgumentReader.start.readUntil commonSwitches 0 isTaskName arguments
  match stopped? with
  | none => .error .usage
  | some (name, rest) =>
      match taskKind? name with
      | none => .error (refusalOfHelp rest)
      | some kind => do
          let (own, task) ← kind.readTask rest
          let common ← reader.settle
          .ok { config? := (own.value? "config").or (common.value? "config"), task }

/-- The files that a request reads. -/
def Request.files (request : Request) : List String :=
  let data? :=
    match request.task with
    | .prepare _ data? => data?
    | .render _ _ _ _ data? => data?
    | _ => none
  request.config?.toList ++ data?.toList

end DataBinding.CommandLine
