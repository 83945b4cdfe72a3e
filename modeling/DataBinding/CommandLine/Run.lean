import DataBinding.CommandLine.Task
import DataBinding.Element.Markup
import DataBinding.Instruction.Report
import DataBinding.Json.Document
import DataBinding.Projection.Render
import DataBinding.Repeat.EditPlan
import DataBinding.Settings.Document

namespace DataBinding.CommandLine

/-!
# Running tasks

A task is a function of the contents of the files that it reads.  Its outcome is
an exit code and the lines for the two outputs.
-/

/-- The outcome of a command line. -/
structure Outcome where
  code : Nat
  output : List String
  complaints : List String
  deriving Repr, DecidableEq

/-- The name of the instruction list in reports. -/
def sourceName : String :=
  "<instructions>"

/-- An outcome without output. -/
def Outcome.failed
    (code : Nat)
    (complaint : String) : Outcome where
  code := code
  output := []
  complaints := [complaint]

/-- The outcome of work that is done, well or not. -/
def Outcome.done
    (well : Bool)
    (output complaints : List String) : Outcome where
  code := if well then 0 else 1
  output := output
  complaints := complaints

/-- The part of the last name of a path after its last point, if the point is not
the first character. -/
def extension? (path : String) : Option String :=
  let backwards := path.toList.reverse.dropWhile (· == '/') |>.takeWhile (· != '/')
  match backwards.dropWhile (· != '.') with
  | _ :: _ :: _ =>
      if backwards = ['.', '.'] then
        none
      else
        some (String.ofList (backwards.takeWhile (· != '.')).reverse)
  | _ => none

/-- Whether a path has the extension of TOML documents. -/
def isToml (path : String) : Bool :=
  match extension? path with
  | some extension => extension.toList.map Char.toLower = ['t', 'o', 'm', 'l']
  | none => false

/-- The data in a file, null without a file. -/
def readData
    (files : String → Option String)
    (path? : Option String) : Except String Value :=
  match path? with
  | none => .ok .null
  | some path =>
      let complaint := "Error reading data '" ++ path ++ "'"
      match files path with
      | none => .error complaint
      | some text =>
          let read := if isToml path then Toml.document? text else
            Json.Reading.standard.document? text
          match read with
          | some data => .ok data
          | none => .error complaint

/-- The settings in a file, the defaults without a file. -/
def readSettings
    (files : String → Option String)
    (path? : Option String) : Except String Settings :=
  match path? with
  | none => .ok {}
  | some path =>
      match (files path).bind Settings.read? with
      | some settings => .ok settings
      | none => .error ("Error loading config '" ++ path ++ "'")

/-- A place as it is shown in trees of tokens. -/
def placeText (span : Span) : String :=
  Nat.repr span.start ++ ".." ++ Nat.repr span.stop

mutual

/-- The lines of a token, with the tokens of a block further to the right. -/
def tokenLines (margin : String) : Token → List String
  | .block bracket tokens span =>
      (margin ++ "block " ++ String.singleton bracket.opening ++ " " ++ placeText span) ::
        sequenceLines (margin ++ "  ") tokens
  | token => [margin ++ token.describe ++ " " ++ placeText token.span]

/-- The lines of tokens in sequence. -/
def sequenceLines (margin : String) : List Token → List String
  | [] => []
  | token :: rest => tokenLines margin token ++ sequenceLines margin rest

end

/-- Shows the tokens of a source. -/
def runTokens (source : String) : Outcome :=
  let lines := (instructions source).flatMap fun instruction =>
    instruction.source :: sequenceLines "  " instruction.tokens
  .done true lines []

/-- Shows the commands of a source. -/
def runPrepare
    (source : String)
    (context : Context) : Outcome :=
  let outcomes := prepareEach context source
  let errors := errorsOf outcomes
  .done errors.isEmpty
    ((commandsOf outcomes).map Command.text)
    (errors.flatMap fun error => error.fault.report source sourceName)

/-- An attribute as it is written on the command line: a name and a value parted
by the first equals sign, or a name alone. -/
def writeAttribute
    (element : Element)
    (written : String) : Element :=
  let (name, value?) := splitAtEquals written.toList
  element.setAttribute (Text.trim (String.ofList name)) (String.ofList (value?.getD []))

/-- The element that a command line describes. -/
def elementOf
    (settings : Settings)
    (source tag : String)
    (text? : Option String)
    (attributes : List String) : Element :=
  let attributed := attributes.foldl writeAttribute { tag }
  let filled :=
    match text? with
    | some text => attributed.setText text
    | none => attributed
  filled.setAttribute settings.attributes.instruction source

/-- The line of an event. -/
def eventLine (event : RecordedEvent) : String :=
  "event " ++ event.name ++ " on <" ++ event.target ++ "> value=" ++ event.value.display

/-- Renders one element and shows its markup and its events. -/
def runRender
    (settings : Settings)
    (source : String)
    (element : Element)
    (context : Context) : Outcome :=
  let callbacks : Callbacks Unit := .ofList [] ()
  let (report, element, callbacks) :=
    settings.render Callbacks.dispatcher context element callbacks
  .done report.isClean
    (element.markup :: callbacks.events.map eventLine)
    (report.errors.flatMap (fun error => error.fault.report source sourceName) ++
      report.dispatchErrors.map fun error => "Error: " ++ error.message)

/-- The keys in a list with commas. -/
def listedKeys (list : String) : List String :=
  ((Text.pieces (· == ',') list).map Text.trim).filter fun key => key ≠ ""

/-- The line of a step of an edit plan over keys. -/
def editLine : Edit String String → String
  | .reuse _ key => "reuse  " ++ key
  | .add key => "add    " ++ key
  | .remove key => "remove " ++ key

/-- Shows the edit plan between two lists of keys. -/
def runDiff (previous current : String) : Outcome :=
  let keyed (list : String) := (listedKeys list).map fun key => (key, key)
  .done true ((editPlan (keyed previous) (keyed current)).map editLine) []

/-- Runs a task with settings. -/
def runTask
    (files : String → Option String)
    (settings : Settings) :
    Task → Outcome
  | .tokens source => runTokens source
  | .prepare source data? =>
      match readData files data? with
      | .error complaint => .failed 1 complaint
      | .ok data => runPrepare source (.ofData data)
  | .render source tag text? attributes data? =>
      match readData files data? with
      | .error complaint => .failed 1 complaint
      | .ok data =>
          runRender settings source (elementOf settings source tag text? attributes)
            (.ofData data)
  | .diff previous current => runDiff previous current

/-- Runs a request. -/
def Request.run
    (request : Request)
    (files : String → Option String) : Outcome :=
  match readSettings files request.config? with
  | .error complaint => .failed 1 complaint
  | .ok settings => runTask files settings request.task

/-- What the command line can ask for. -/
def usageText : String :=
  "Usage: data-binding [--config FILE] [--verbose] tokens|prepare|render|diff ..."

/-- The outcome of a command line that leads to no task. -/
def Refusal.outcome : Refusal → Outcome
  | help => ⟨0, [usageText], []⟩
  | usage => .failed 2 usageText

/-- Runs a command line. -/
def run
    (files : String → Option String)
    (arguments : List String) : Outcome :=
  match readRequest arguments with
  | .error refusal => refusal.outcome
  | .ok request => request.run files

end DataBinding.CommandLine
