import Datagrid.Event.Handlers
import Datagrid.Operation.EntryListener
import Datagrid.Operation.ListenerRemoval
import Datagrid.Subscription.Listener
import Datagrid.Text.Quoted

/-!
Subscriptions to the entries of a map: which entries, which kinds of events,
and who is called. `MapSubscription.prepare` makes one from what a user asks
for, and `MapSubscription.listener` is what is kept registered.
-/
namespace Datagrid

/-- What the calls of an event depend on. -/
structure Surroundings where
  gate : Gate
  directory : Directory

/-- A call that an event leads to. -/
structure EntryCall (α : Type) where
  handler : EventHandler α
  event : EntryEvent

/-- A subscription to entries of a map. -/
structure MapSubscription (α : Type) where
  request : ListenerRequest
  handlers : Handlers α
  keyType : ValueType
  valueType : ValueType

namespace MapSubscription

variable {α : Type}

/-- What selects the entries. -/
def selection (m : MapSubscription α) : Selection :=
  .ofFilters m.request.key.isSome m.request.predicate.isSome

/-- A subscription to the entries that a key and a predicate select. The key is
    serialized, so that takes an open gate. -/
def prepare (map : String) (includeValue : Bool) (handlers : Handlers α)
    (keyType valueType : ValueType) (key : Option Value) (predicate : Option Data) (gate : Gate) :
    Except Fault (MapSubscription α) := do
  if handlers.interest.isNothing then throw (.config .noHandler)
  let key ← key.mapM gate.toData
  return {
    request := { map, key, predicate, includeValue, interest := handlers.interest.bits,
                 localOnly := false }
    handlers
    keyType
    valueType }

def event (m : MapSubscription α) (directory : Directory) (r : EntryReport) : EntryEvent where
  source := m.request.map
  member := r.member.bind directory.find?
  kinds := ⟨r.kind⟩
  affected := r.affected
  key := .ofData m.keyType r.key
  value := .ofData m.valueType r.value
  oldValue := .ofData m.valueType r.oldValue
  mergingValue := .ofData m.valueType r.mergingValue

/-- The calls that a message leads to: it has to be an event of the selection,
    and is read as a whole before anyone is called. -/
def calls (m : MapSubscription α) (around : Surroundings) (message : Message) :
    Except Fault (List (EntryCall α)) := do
  if !EntryListener.isEvent m.selection message then
    let type ← message.messageType
    throw (.protocol (.unexpectedEvent type m.selection.operation))
  let report ← message.inspect (EntryListener.decodeEvent m.selection)
  let event := m.event around.directory report
  return (m.handlers.called event.kinds).map (⟨·, event⟩)

/-- What is kept registered. -/
def listener (m : MapSubscription α) : Listener Surroundings (EntryCall α) where
  request := EntryListener.encodeRequest m.selection m.request
  registration response := response.inspect (EntryListener.decodeResponse m.selection)
  removal registration := .ok (ListenerRemoval.encodeRequest m.request.map registration)
  removed response := response.inspect ListenerRemoval.decodeResponse
  calls := m.calls

end MapSubscription

/-- The text of the subscriptions of a map for diagnostics. -/
def mapEventsDebugText (map : String) (includeValues : Bool) : String :=
  "MapEvents \x7b name: " ++ Text.quoted map ++ s!", include_values: {includeValues}, .. \x7d"

end Datagrid
