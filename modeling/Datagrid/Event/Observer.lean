import Datagrid.Event.Handlers

/-!
Observers: handlers that read parts of an entry and note what they have seen.
-/
namespace Datagrid

/-- A handler's name, the parts of the entry it reads, and what it does next. -/
structure Observer (β : Type) where
  name : String
  reads : List EntryField
  next : Option β

/-- What an observer has read of an entry, and which parts have been read by
    then, by anyone. -/
structure EntrySighting where
  fields : List (EntryField × Except Fault (Option Value))
  resolved : List Bool

/-- What an observer has seen of an event: an observer of the whole map sees no
    entry. -/
structure Sighting where
  handler : String
  event : MapEvent
  entry : Option EntrySighting

namespace EntryEvent

/-- Reads parts of the entry one after the other. -/
def readAll (e : EntryEvent) (gate : Gate) :
    List EntryField → List (EntryField × Except Fault (Option Value)) × EntryEvent × Gate
  | [] => ([], e, gate)
  | field :: rest =>
    let (result, e, gate) := e.read field gate
    let (results, e, gate) := e.readAll gate rest
    ((field, result) :: results, e, gate)

end EntryEvent

variable {β : Type}

def EventHandler.observe (h : EventHandler (Observer β)) (e : EntryEvent) (gate : Gate) :
    Sighting × EntryEvent × Gate :=
  match h.scope with
  | .map => (⟨h.action.name, e.toMapEvent, none⟩, e, gate)
  | .entry =>
    let (fields, e, gate) := e.readAll gate h.action.reads
    (⟨h.action.name, e.toMapEvent, some ⟨fields, e.resolved⟩⟩, e, gate)

/-- Shows an event to the observers that are called for it. -/
def Handlers.observe (hs : Handlers (Observer β)) (e : EntryEvent) (gate : Gate) :
    List Sighting × Gate :=
  let step := fun (seen, e, gate) (h : EventHandler (Observer β)) =>
    let (sighting, e, gate) := h.observe e gate
    (seen ++ [sighting], e, gate)
  let (seen, _, gate) := (hs.called e.kinds).foldl step ([], e, gate)
  (seen, gate)

end Datagrid
