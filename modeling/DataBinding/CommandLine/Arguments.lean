namespace DataBinding.CommandLine

/-!
# Arguments of a command line

Arguments are switches and plain words.  A switch has a long name after two
hyphens, and perhaps a letter after one hyphen; letters can be written together.
A switch with a value takes it after an equals sign, right behind its letter or
from the next argument, which then must not look like a switch.  Two hyphens by
themselves end the switches.

Arguments are read from left to right, and the first refusal counts.  A value that
is an argument of its own is looked at when the next argument is read, as more
than one could belong to a switch.
-/

/-- What a switch takes: nothing, a text, a path or any number of texts.  All but
the last are used once, and a path is not empty. -/
inductive Parameter where
  | nothing
  | text
  | path
  | texts
  deriving Repr, DecidableEq

/-- A switch. -/
structure Switch where
  name : String
  letter? : Option Char
  parameter : Parameter
  deriving Repr, DecidableEq

/-- Why arguments lead to no task. -/
inductive Refusal where
  | help
  | usage
  deriving Repr, DecidableEq

/-- The arguments so far: the switches with their values, and the plain words. -/
structure Arguments where
  switches : List (Switch × String)
  words : List String
  deriving Repr, DecidableEq

/-- The switch that asks for help. -/
def helpSwitch : Switch :=
  ⟨"help", some 'h', .nothing⟩

namespace Arguments

/-- No arguments. -/
def none : Arguments where
  switches := []
  words := []

/-- Whether a switch can be used, perhaps again. -/
def allows
    (arguments : Arguments)
    (candidate : Switch) : Bool :=
  candidate.parameter = .texts || !arguments.switches.any fun used => used.1 = candidate

/-- Adds a switch with its value. -/
def addSwitch
    (arguments : Arguments)
    (added : Switch)
    (value : String) : Except Refusal Arguments :=
  if added = helpSwitch then
    .error .help
  else if arguments.allows added = false ∨ (added.parameter = .path ∧ value = "") then
    .error .usage
  else
    .ok { arguments with switches := arguments.switches ++ [(added, value)] }

/-- Adds a plain word. -/
def addWord
    (arguments : Arguments)
    (word : String) : Arguments :=
  { arguments with words := arguments.words ++ [word] }

/-- The values of the switch with a name, in order. -/
def values
    (arguments : Arguments)
    (name : String) : List String :=
  (arguments.switches.filter fun used => used.1.name = name).map Prod.snd

/-- The value of the switch with a name. -/
def value?
    (arguments : Arguments)
    (name : String) : Option String :=
  (arguments.values name).head?

end Arguments

/-- What the characters of an argument make it. -/
inductive Shape where
  | endOfSwitches
  | long (name : String) (value? : Option String)
  | letters (characters : List Char)
  | word
  deriving Repr, DecidableEq

/-- The characters before the first equals sign, and those after it if there is
one. -/
def splitAtEquals : List Char → List Char × Option (List Char)
  | [] => ([], none)
  | c :: rest =>
      if c = '=' then
        ([], some rest)
      else
        let (before, after?) := splitAtEquals rest
        (c :: before, after?)

/-- The shape of an argument.  A single hyphen is a word. -/
def shape (argument : String) : Shape :=
  match argument.toList with
  | ['-', '-'] => .endOfSwitches
  | '-' :: '-' :: rest =>
      let (name, value?) := splitAtEquals rest
      .long (String.ofList name) (value?.map String.ofList)
  | '-' :: c :: rest => .letters (c :: rest)
  | _ => .word

/-- A switch at the end of what is read: one that wants a value, or one with a
value that is still to be looked at. -/
inductive Pending where
  | none
  | wanting (found : Switch)
  | given (found : Switch) (value : String)
  deriving Repr, DecidableEq

/-- Arguments under way: those that are settled, and what is at their end. -/
structure ArgumentReader where
  settled : Arguments
  pending : Pending
  deriving Repr, DecidableEq

namespace ArgumentReader

/-- Nothing read. -/
def start : ArgumentReader where
  settled := .none
  pending := .none

/-- The arguments, with what is at their end looked at. -/
def settle (reader : ArgumentReader) : Except Refusal Arguments :=
  match reader.pending with
  | .none => .ok reader.settled
  | .wanting _ => .error .usage
  | .given found value => reader.settled.addSwitch found value

/-- Reads a switch with its value, which is empty for one that takes nothing. -/
def useSwitch
    (reader : ArgumentReader)
    (found : Switch)
    (value : String) : Except Refusal ArgumentReader := do
  let settled ← reader.settle
  let settled ← settled.addSwitch found value
  .ok ⟨settled, .none⟩

/-- Reads a switch whose value is the next argument. -/
def awaitValue
    (reader : ArgumentReader)
    (found : Switch) : Except Refusal ArgumentReader := do
  let settled ← reader.settle
  .ok ⟨settled, .wanting found⟩

/-- Reads the long name of a switch, perhaps with a value. -/
def useLong
    (known : List Switch)
    (reader : ArgumentReader)
    (name : String)
    (value? : Option String) : Except Refusal ArgumentReader :=
  match known.find? fun candidate => candidate.name == name with
  | none => .error .usage
  | some found =>
      match found.parameter, value? with
      | .nothing, some _ => .error .usage
      | .nothing, none => reader.useSwitch found ""
      | _, some value => reader.useSwitch found value
      | _, none => reader.awaitValue found

/-- Reads letters written together.  What follows the letter of a switch with a
value is the value, perhaps behind an equals sign. -/
def useLetters
    (known : List Switch)
    (reader : ArgumentReader) :
    List Char → Except Refusal ArgumentReader
  | [] => .ok reader
  | c :: rest =>
      match known.find? fun candidate => candidate.letter? == some c with
      | none => .error .usage
      | some found =>
          match found.parameter, rest with
          | .nothing, rest => do
              let reader ← reader.useSwitch found ""
              reader.useLetters known rest
          | _, [] => reader.awaitValue found
          | _, '=' :: value => reader.useSwitch found (String.ofList value)
          | _, value => reader.useSwitch found (String.ofList value)

/-- Reads a plain word, of which there can be `room` many. -/
def useWord
    (room : Nat)
    (reader : ArgumentReader)
    (word : String) : Except Refusal ArgumentReader :=
  if reader.settled.words.length < room then do
    let settled ← reader.settle
    .ok ⟨settled.addWord word, .none⟩
  else
    .error .usage

/-- Reads arguments, up to the first plain word that `stops` accepts: what is read,
that word, and what follows it. -/
def readUntil
    (known : List Switch)
    (room : Nat)
    (stops : String → Bool)
    (reader : ArgumentReader) :
    List String → Except Refusal (ArgumentReader × Option (String × List String))
  | [] => .ok (reader, none)
  | argument :: rest =>
      match shape argument, reader.pending with
      | .word, .wanting found =>
          readUntil known room stops { reader with pending := .given found argument } rest
      | .word, _ =>
          if stops argument then
            .ok (reader, some (argument, rest))
          else do
            let reader ← reader.useWord room argument
            readUntil known room stops reader rest
      | .endOfSwitches, _ => do
          let reader ← rest.foldlM (useWord room) reader
          .ok (reader, none)
      | .letters letters, _ => do
          let reader ← reader.useLetters known letters
          readUntil known room stops reader rest
      | .long name value?, _ => do
          let reader ← reader.useLong known name value?
          readUntil known room stops reader rest

end ArgumentReader

/-- Reads all arguments, with `room` plain words at most. -/
def readArguments
    (known : List Switch)
    (room : Nat)
    (arguments : List String) : Except Refusal Arguments := do
  let (reader, _) ← ArgumentReader.start.readUntil known room (fun _ => false) arguments
  reader.settle

end DataBinding.CommandLine
