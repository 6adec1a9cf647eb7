import Datagrid.Event.MapSubscription
import Datagrid.Proofs.Operation.Opening
import Datagrid.Proofs.Subscription.World

/-!
The language of a member that keeps listeners of maps. Every subscription to a map
speaks it: what it sends is understood, whatever correlation id it is sent with.
-/
namespace Datagrid

/-- What a member that keeps listeners of maps is asked. -/
def mapOrder (m : Message) : Order :=
  match m.messageType with
  | .error _ => .other
  | .ok type =>
    if type = ListenerRemoval.requestType then
      match m.header .guid ListenerRemoval.registrationOffset with
      | .ok (some id) => .remove id
      | _ => .other
    else
      match (Selection.named.map (·.2)).find? (·.requestType == type) with
      | some s => .register fun response => response.inspect (EntryListener.decodeResponse s)
      | none => .other

/-! ## Headers of requests -/

namespace Message

variable {m sent : Message} {operation : String} {retryable : Bool} {type : Int32} {fields : Octets}
  {rest : List Frame} {k : Int64}

theorem messageType_of_setCorrelation (set : m.setCorrelation k = .ok sent) : sent.messageType = m.messageType :=
  header_of_setCorrelation set (.inl (by decide))

theorem messageType_requestOf :
    (requestOf operation retryable (.ofRequest type fields :: rest)).messageType = .ok type :=
  Frame.read_type (congrArg Frame.content Frame.ofRequest_eq)

theorem setCorrelation_requestOf (k : Int64) :
    ∃ sent, (requestOf operation retryable (.ofRequest type fields :: rest)).setCorrelation k = .ok sent :=
  ⟨_, setCorrelation_headed (congrArg (· :: rest) Frame.ofRequest_eq) k⟩

end Message

/-! ## Requests of map subscriptions -/

section
variable {s : Selection} {request : ListenerRequest} {m sent : Message} {map : String} {id : Uuid} {k : Int64}

theorem EntryListener.messageType_request (encoded : EntryListener.encodeRequest s request = .ok m) :
    m.messageType = .ok s.requestType := by
  unfold EntryListener.encodeRequest at encoded
  split at encoded
  · cases encoded
  · cases encoded
    exact Message.messageType_requestOf

theorem ListenerRemoval.registration_request :
    (ListenerRemoval.encodeRequest map id).header .guid ListenerRemoval.registrationOffset = .ok (some id) := by
  let first := Frame.ofRequest ListenerRemoval.requestType (Field.guid.encode (some id))
  have header : first.fields = Field.int.encode anyPartition ++ Field.guid.encode (some id) :=
    Frame.fields_eq (congrArg Frame.content Frame.ofRequest_eq)
  exact Field.read_of_drop ((Frame.drop_partition header).trans (List.append_nil _).symm) (by decide)

theorem mapOrder_of_request (encoded : EntryListener.encodeRequest s request = .ok m)
    (set : m.copy.setCorrelation k = .ok sent) :
    mapOrder sent = .register fun response => response.inspect (EntryListener.decodeResponse s) := by
  have type : sent.messageType = .ok s.requestType := by
    rw [Message.messageType_of_setCorrelation set, ← EntryListener.messageType_request encoded]
    rfl
  have other : s.requestType ≠ ListenerRemoval.requestType := by cases s <;> decide
  have found : (Selection.named.map (·.2)).find? (·.requestType == s.requestType) = some s := by cases s <;> decide
  simp only [mapOrder, type, if_neg other, found]

theorem mapOrder_of_removal (set : (ListenerRemoval.encodeRequest map id).setCorrelation k = .ok sent) :
    mapOrder sent = .remove id := by
  have type : sent.messageType = .ok ListenerRemoval.requestType := by
    rw [Message.messageType_of_setCorrelation set]
    exact Message.messageType_requestOf
  have registration : sent.header .guid ListenerRemoval.registrationOffset = .ok (some id) := by
    rw [Message.header_of_setCorrelation set (.inr (by decide))]
    exact ListenerRemoval.registration_request
  simp only [mapOrder, type, registration, if_true]

/-- A subscription to a map is understood. -/
theorem MapSubscription.speaks {α : Type} (subscription : MapSubscription α) :
    subscription.listener.Speaks mapOrder where
  request _ _ _ encoded set := mapOrder_of_request encoded set
  removal id k := by
    obtain ⟨sent, set⟩ : ∃ sent,
        (ListenerRemoval.encodeRequest subscription.request.map id).setCorrelation k = .ok sent :=
      Message.setCorrelation_requestOf k
    exact ⟨_, sent, rfl, set, mapOrder_of_removal set⟩

/-- Whatever registration a subscription to a map has, the member can be asked to take it off. -/
theorem MapSubscription.removal_encodes {α : Type} (subscription : MapSubscription α) (id : Uuid) (k : Int64) :
    ∃ m message, subscription.listener.removal id = .ok m ∧ m.setCorrelation k = .ok message := by
  obtain ⟨m, message, removal, set, -⟩ := subscription.speaks.removal id k
  exact ⟨m, message, removal, set⟩

end
end Datagrid
