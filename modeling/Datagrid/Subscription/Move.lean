import Datagrid.Subscription.System

/-!
Moves: what users, transports and the activities themselves can do to the
system, one at a time.
-/
namespace Datagrid

variable {σ κ : Type}

/-- What a user or a transport begins. -/
inductive Beginning (σ κ : Type) where
  | subscribe (listener : Listener σ κ) (token : Option TokenId)
  | unsubscribe (s : SubscriptionId) (token : Option TokenId)
  | registration (s : SubscriptionId)
  | event (connection : ConnectionId) (message : Message)
  | react (event : ConnectionEvent)
  | shutdown
  | listen (capacity : Nat)
  | pump (capacity : Nat)

/-- The stage that something begins with. -/
def Beginning.stage : Beginning σ κ → Stage σ κ
  | .subscribe listener token => .subscribe listener token
  | .unsubscribe s token => .lookup s (.unsubscribe token)
  | .registration s => .lookup s .registration
  | .event connection message => .event connection message
  | .react report => .react report
  | .shutdown => .shutdown
  | .listen capacity => .listen (.new capacity) none
  | .pump capacity => .pump (.new capacity) none

inductive Move (σ κ : Type) where
  | begin (beginning : Beginning σ κ)
  | proceed (a : ActivityId)
  /-- The transport takes a request. -/
  | send (r : RequestId)
  /-- The transport answers a request. -/
  | answer (r : RequestId) (reply : Except Fault Message)
  /-- The time allowed to an activity is over. -/
  | expire (a : ActivityId)
  | cancel (token : TokenId)
  /-- The connection for new requests is another, or none. -/
  | use (connection : Option ConnectionId)
  /-- The transport reports to all who listen. -/
  | publish (event : ConnectionEvent)
  /-- The transport has nothing more to report. -/
  | closeEvents
  /-- An event for a pump. -/
  | offer (pump : ActivityId) (connection : ConnectionId) (message : Message)
  | closePump (pump : ActivityId)
  /-- A call has been made. -/
  | called (a : ActivityId)
  | surround (surroundings : σ)

end Datagrid
