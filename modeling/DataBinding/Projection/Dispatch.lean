import DataBinding.Element.Basic
import DataBinding.Value.Basic

namespace DataBinding

/-!
# Events and callbacks

Rendering never runs code of the host by itself: events and calls go through a
dispatcher, which has a state of its own.  The registry of callbacks is a
dispatcher that also records the events.
-/

/-- Why a call came to nothing. -/
inductive DispatchError where
  | unknownCallback (name : String)
  | failed (name message : String)
  deriving Repr, DecidableEq

namespace DispatchError

/-- The name of the kind of an error. -/
def kindName : DispatchError → String
  | unknownCallback _ => "UnknownCallback"
  | failed _ _ => "Failed"

/-- The wording of an error. -/
def message : DispatchError → String
  | unknownCallback name => "callback '" ++ name ++ "' not found"
  | failed name message => "callback '" ++ name ++ "' failed: " ++ message

end DispatchError

/-- What an event or a call is told: the value of the command, the data of the
context and the arguments. -/
structure Detail where
  value : Value
  data : Value
  arguments : List Value
  deriving Repr

/-- The host as rendering sees it.  An event cannot change the element, a call
can, even when it fails. -/
structure Dispatcher (σ : Type) where
  fire : Element → String → Detail → σ → Except DispatchError Unit × σ
  invoke : Element → String → Detail → σ → Except DispatchError Unit × Element × σ

/-- A named piece of host code.  It may change the element and the state of the
host, and it fails with a message. -/
abbrev Callback (σ : Type) : Type :=
  Element → Detail → σ → Except String Unit × Element × σ

/-- An event that was fired. -/
structure RecordedEvent where
  name : String
  /-- The tag of the element. -/
  target : String
  value : Value
  arguments : List Value
  deriving Repr

/-- The state of a registry: the callbacks by name, the events so far and the
state of the host. -/
structure Callbacks (σ : Type) where
  registered : List (String × Callback σ)
  events : List RecordedEvent
  host : σ

namespace Callbacks

/-- A registry with some callbacks; of two with one name the later counts. -/
def ofList
    (named : List (String × Callback σ))
    (host : σ) : Callbacks σ where
  registered := Fields.ofList named
  events := []
  host := host

/-- Takes over the callbacks and events of a more local registry, whose callbacks
win. -/
def extend
    (callbacks own : Callbacks σ) : Callbacks σ :=
  { callbacks with
    registered := Fields.insertAll callbacks.registered own.registered
    events := callbacks.events ++ own.events }

/-- Whether a callback has a name. -/
def contains
    (callbacks : Callbacks σ)
    (name : String) : Bool :=
  Fields.contains name callbacks.registered

/-- The names of the callbacks, in order. -/
def names (callbacks : Callbacks σ) : List String :=
  callbacks.registered.map Prod.fst

/-- The events so far, and the registry without them. -/
def takeEvents (callbacks : Callbacks σ) : List RecordedEvent × Callbacks σ :=
  (callbacks.events, { callbacks with events := [] })

/-- Records an event. -/
def record
    (element : Element)
    (name : String)
    (detail : Detail)
    (callbacks : Callbacks σ) : Except DispatchError Unit × Callbacks σ :=
  let event : RecordedEvent :=
    { name, target := element.tag, value := detail.value, arguments := detail.arguments }
  (.ok (), { callbacks with events := callbacks.events ++ [event] })

/-- Runs the callback with a name. -/
def run
    (element : Element)
    (name : String)
    (detail : Detail)
    (callbacks : Callbacks σ) : Except DispatchError Unit × Element × Callbacks σ :=
  match Fields.get? name callbacks.registered with
  | none => (.error (.unknownCallback name), element, callbacks)
  | some callback =>
      let (outcome, element, host) := callback element detail callbacks.host
      (outcome.mapError (DispatchError.failed name), element, { callbacks with host := host })

/-- The registry as a dispatcher. -/
def dispatcher : Dispatcher (Callbacks σ) where
  fire := record
  invoke := run

end Callbacks

end DataBinding
