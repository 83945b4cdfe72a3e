namespace DataBinding

/-!
# Actions

An action says what an instruction does to its element.  It is named by a
keyword or by a shortcut.  A shortcut is one character, and some shortcuts take
the characters after it as the parameter of the action.
-/

/-- What an instruction does to its element. -/
inductive Action where
  | attr
  | event
  | call
  | classes
  | html
  | text
  | value
  | toggle
  | remove
  | debugger
  deriving Repr, DecidableEq

namespace Action

/-- All actions, in the order in which they are listed. -/
def all : List Action :=
  [attr, event, call, classes, html, text, value, toggle, remove, debugger]

/-- The word that names an action. -/
def keyword : Action → String
  | attr => "attr"
  | event => "event"
  | call => "call"
  | classes => "class"
  | html => "html"
  | text => "text"
  | value => "value"
  | toggle => "toggle"
  | remove => "remove"
  | debugger => "debugger"

/-- The action that a keyword names. -/
def ofKeyword? (word : String) : Option Action :=
  all.find? fun action => action.keyword == word

/-- A character that names an action, and whether a parameter follows it in the
same word. -/
structure Shortcut where
  mark : Char
  takesParameter : Bool
  action : Action
  deriving Repr, DecidableEq

/-- All shortcuts, in the order in which they are listed. -/
def shortcuts : List Shortcut :=
  [⟨'@', true, attr⟩, ⟨':', true, event⟩, ⟨'*', true, call⟩, ⟨'.', true, classes⟩,
    ⟨'+', false, html⟩, ⟨'.', false, text⟩, ⟨'=', false, value⟩, ⟨'?', false, toggle⟩,
    ⟨'!', false, remove⟩, ⟨'\x60', false, debugger⟩]

/-- A shortcut as it is listed: a star stands for a parameter. -/
def Shortcut.pattern (shortcut : Shortcut) : String :=
  String.ofList (if shortcut.takesParameter then [shortcut.mark, '*'] else [shortcut.mark])

/-- The action that a word names by a shortcut, with the parameter in the word. -/
def ofShortcut? (word : String) : Option (Action × Option String) :=
  match word.toList with
  | [] => none
  | mark :: rest =>
      let found := shortcuts.find? fun shortcut =>
        shortcut.mark == mark && shortcut.takesParameter == !rest.isEmpty
      found.map fun shortcut =>
        (shortcut.action, if rest.isEmpty then none else some (String.ofList rest))

/-- The action that a word names, with the parameter in the word.  Shortcuts go
before keywords. -/
def resolve? (word : String) : Option (Action × Option String) :=
  match ofShortcut? word with
  | some named => some named
  | none => (ofKeyword? word).map fun action => (action, none)

/-- The list of keywords and shortcuts in messages. -/
def supported : String :=
  String.intercalate ", " (all.map keyword ++ shortcuts.map Shortcut.pattern)

/-- Calls and events take a list of arguments. -/
def takesArguments : Action → Bool
  | event => true
  | call => true
  | _ => false

/-- Removal, events and calls wait until all other changes are made. -/
def isDeferred : Action → Bool
  | remove => true
  | event => true
  | call => true
  | _ => false

/-- Every keyword names its action. -/
theorem ofKeyword?_keyword
    (action : Action) :
    ofKeyword? action.keyword = some action := by
  cases action <;> decide

end Action

end DataBinding
