import Datagrid.Client.Member
import Datagrid.Event.Kinds
import Datagrid.Payload.Negotiation

/-!
Entry events and those who handle them. A handler asks for kinds of events and
is called for an event that has no others. An event is handed to its handlers
one after the other; those for the whole map do not see the entry.
-/
namespace Datagrid

/-- The parts of an entry that an event may bring. -/
inductive EntryField where
  | key
  | value
  | oldValue
  | mergingValue
  deriving DecidableEq

/-- The parts of an entry by their names. -/
def EntryField.named : List (String × EntryField) :=
  [("key", .key), ("value", .value), ("old_value", .oldValue), ("merging_value", .mergingValue)]

/-- An event without its entry. -/
structure MapEvent where
  source : String
  member : Option Member
  kinds : EventKinds
  affected : Int32

/-- An event of an entry, whose parts are read when they are asked for. -/
structure EntryEvent extends MapEvent where
  key : Lazy
  value : Lazy
  oldValue : Lazy
  mergingValue : Lazy

namespace EntryEvent

def get (e : EntryEvent) : EntryField → Lazy
  | .key => e.key
  | .value => e.value
  | .oldValue => e.oldValue
  | .mergingValue => e.mergingValue

/-- The event with a part of its entry replaced. -/
def set (e : EntryEvent) (part : Lazy) : EntryField → EntryEvent
  | .key => { e with key := part }
  | .value => { e with value := part }
  | .oldValue => { e with oldValue := part }
  | .mergingValue => { e with mergingValue := part }

def read (e : EntryEvent) (field : EntryField) (gate : Gate) :
    Except Fault (Option Value) × EntryEvent × Gate :=
  let (result, part, gate) := (e.get field).get gate
  (result, e.set part field, gate)

/-- Which parts of the entry have been read. -/
def resolved (e : EntryEvent) : List Bool :=
  [e.key, e.value, e.oldValue, e.mergingValue].map Lazy.isResolved

end EntryEvent

/-- What a handler is for. -/
inductive HandlerScope where
  | entry
  | map
  deriving DecidableEq

/-- What the handlers for a single kind of events are for, by the names of the
    kinds. -/
def HandlerScope.named : List (String × HandlerScope × EventKinds) :=
  [("added", entry, .added), ("removed", entry, .removed), ("updated", entry, .updated),
    ("evicted", entry, .evicted), ("expired", entry, .expired), ("merged", entry, .merged),
    ("loaded", entry, .loaded), ("map_evicted", map, .evictAll), ("map_cleared", map, .clearAll)]

/-- A handler: the kinds of events it asks for, and what it does. -/
structure EventHandler (α : Type) where
  scope : HandlerScope
  mask : EventKinds
  action : α

/-- Whether a handler is called for events of these kinds. -/
def EventHandler.accepts {α : Type} (h : EventHandler α) (kinds : EventKinds) : Bool :=
  h.mask.contains kinds

/-- The text of a handler for diagnostics. -/
def EventHandler.debugText {α : Type} (h : EventHandler α) : String :=
  let kind := match h.scope with
    | .entry => "Entry"
    | .map => "Map"
  "EntryHandler \x7b kind: \"" ++ kind ++ "\", mask: " ++ h.mask.debugText ++ " \x7d"

/-- Handlers in the order they are called. -/
abbrev Handlers (α : Type) := List (EventHandler α)

namespace Handlers

variable {α : Type}

/-- The least set of kinds that has all that any handler asks for. -/
def interest (hs : Handlers α) : EventKinds := .unionAll (hs.map (·.mask))

/-- The handlers that are called for an event of these kinds: none for an event
    of no kind. -/
def called (hs : Handlers α) (kinds : EventKinds) : Handlers α :=
  if kinds.isNothing then [] else hs.filter (·.accepts kinds)

/-- The text of handlers for diagnostics. -/
def debugText (hs : Handlers α) : String :=
  "EntryHandlers \x7b handlers: [" ++ String.intercalate ", " (hs.map EventHandler.debugText) ++
    "], interest_mask: " ++ hs.interest.debugText ++ " \x7d"

end Handlers
end Datagrid
