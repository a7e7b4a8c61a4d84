import VmSupport.Log.Event
import VmSupport.Log.Filter

/-!
# The logger

A process has one place for a receiver of events. It is vacant at first, and whoever takes it first
keeps it: the library's own logger, or a foreign one that the library knows nothing about. Events
that find the place vacant or taken by a foreign receiver are gone.

**The window.** The library's logger writes the events that pass its filter, from its installation
until it is closed. Flushing closes a logger that the library holds itself; one that was handed to
the caller stays open. A closed logger keeps its place but writes nothing more.
-/

namespace VmSupport.Log

/-- The library's logger. -/
structure Sink where
  filter : Filter
  layout : Layout
  /-- Whether the library holds the logger, so that flushing closes it. -/
  held : Bool
  isOpen : Bool

/-- What takes the place of the receiver. -/
inductive Receiver where
  | vacant
  | foreign
  | own (sink : Sink)

/-- The place of the receiver, and what was written. -/
structure Logger where
  receiver : Receiver
  written : List Event

/-- What can be done to a logger. -/
inductive Act where
  /-- Something is reported. -/
  | event (e : Event)
  /-- A foreign receiver takes the place, if it is vacant. -/
  | occupy
  /-- The library's logger takes the place, if it is vacant. -/
  | install (filter : Filter) (layout : Layout) (held : Bool)
  /-- What is held is written out and closed. -/
  | flush

namespace Logger

/-- The logger of a fresh process. -/
def fresh : Logger := ⟨.vacant, []⟩

/-- Whether the place of the receiver is still free. -/
def isVacant (l : Logger) : Bool :=
  match l.receiver with
  | .vacant => true
  | _ => false

/-- Whether the library's logger has the place. -/
def isInstalled (l : Logger) : Bool :=
  match l.receiver with
  | .own _ => true
  | _ => false

/-- The layout of the library's logger. -/
def layout? (l : Logger) : Option Layout :=
  match l.receiver with
  | .own sink => some sink.layout
  | _ => none

/-- The logger after something was done to it. -/
def act (l : Logger) : Act → Logger
  | .event e =>
    match l.receiver with
    | .own sink =>
      if sink.isOpen && sink.filter.passes e.target e.names e.level then
        { l with written := l.written ++ [e] }
      else
        l
    | _ => l
  | .occupy =>
    match l.receiver with
    | .vacant => { l with receiver := .foreign }
    | _ => l
  | .install filter layout held =>
    match l.receiver with
    | .vacant => { l with receiver := .own { filter, layout, held, isOpen := true } }
    | _ => l
  | .flush =>
    match l.receiver with
    | .own sink =>
      if sink.held then { l with receiver := .own { sink with isOpen := false } } else l
    | _ => l

end Logger

end VmSupport.Log
