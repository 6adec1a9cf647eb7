import Datagrid.Payload.Data
import Datagrid.Subscription.Basic
import Datagrid.Subscription.Feed
import Datagrid.Subscription.Listener

/-!
Subscriptions, the requests on their way, and the activities around them. An
activity works in stages, and between two stages any other may take its turn. A
subscription has a lock: whoever holds it alone changes the registration, and
those who wait for it get it in the order they came.
-/
namespace Datagrid

/-- An activity, in the order of their beginning. -/
abbrev ActivityId := Nat

/-- A request, in the order of their sending. -/
abbrev RequestId := Nat

/-- Where events with a correlation id belong. -/
structure Route where
  subscription : SubscriptionId
  connection : ConnectionId
  deriving DecidableEq

/-- The member's side of a subscription. -/
structure Registration where
  connection : Option ConnectionId
  id : Option Uuid
  correlation : Option Int64
  deriving DecidableEq

def Registration.none : Registration := ⟨.none, .none, .none⟩

/-- A subscription, with its lock. -/
structure Subscription (σ κ : Type) where
  listener : Listener σ κ
  /-- The request that is sent for every registration. -/
  request : Message
  state : SubscriptionState
  registration : Registration
  /-- Who holds the lock. -/
  holder : Option ActivityId
  /-- Who waits for the lock. -/
  waiting : List ActivityId

inductive RequestPhase where
  /-- Not yet with the transport. -/
  | spawned
  /-- With the transport. -/
  | sent
  | answered (reply : Except Fault Message)

/-- A request on its way. -/
structure Request where
  connection : ConnectionId
  message : Message
  phase : RequestPhase

/-- What the lock of a subscription is wanted for. -/
inductive Goal where
  | unsubscribe (token : Option TokenId)
  | reinstall (connection : ConnectionId)
  /-- To learn the registration. -/
  | registration
  deriving DecidableEq

/-- What a registration is made for. -/
inductive Purpose where
  | first (token : Option TokenId)
  | again
  deriving DecidableEq

/-- The token that cancels the making of a registration. -/
def Purpose.token : Purpose → Option TokenId
  | first token => token
  | again => none

/-- What an activity comes to. -/
inductive Outcome where
  | subscribed (result : Except Fault SubscriptionId)
  | unsubscribed (result : Except Fault Bool)
  | registration (id : Option Uuid)
  | finished

/-- The stages of activities, each named for what is done next. -/
inductive Stage (σ κ : Type) where
  | subscribe (listener : Listener σ κ) (token : Option TokenId)
  | enter (s : SubscriptionId) (token : Option TokenId)
  | list (s : SubscriptionId) (token : Option TokenId)
  | addRoute (s : SubscriptionId) (purpose : Purpose) (connection : ConnectionId)
      (correlation : Int64) (request : Message)
  /-- Wait for the response to a registration; `late` once it is overdue. -/
  | awaitRegistration (s : SubscriptionId) (purpose : Purpose) (connection : ConnectionId)
      (correlation : Int64) (request : RequestId) (late : Bool)
  | removeRoute (s : SubscriptionId) (purpose : Purpose) (correlation : Int64) (fault : Fault)
  | withdraw (s : SubscriptionId) (fault : Fault)
  /-- Look a subscription up, to do something with its lock. -/
  | lookup (s : SubscriptionId) (goal : Goal)
  | lock (s : SubscriptionId) (goal : Goal)
  | queue (s : SubscriptionId) (goal : Goal)
  | dropRoute (s : SubscriptionId) (correlation : Int64) (goal : Goal)
  | unlist (s : SubscriptionId) (token : Option TokenId)
  /-- Wait for the response to a removal; `late` once it is overdue. -/
  | awaitRemoval (s : SubscriptionId) (token : Option TokenId) (request : RequestId) (late : Bool)
  /-- Wait for the response that nobody else waits for any more. -/
  | release (listener : Listener σ κ) (connection : ConnectionId) (request : RequestId)
  | released (request : RequestId)
  | event (connection : ConnectionId) (message : Message)
  | route (connection : ConnectionId) (correlation : Int64) (message : Message)
  | deliver (s : SubscriptionId) (message : Message)
  | call (calls : List κ)
  | react (event : ConnectionEvent)
  | join (children : List ActivityId)
  | listen (feed : Feed ConnectionEvent) (child : Option ActivityId)
  | pump (feed : Feed (ConnectionId × Message)) (child : Option ActivityId)
  | shutdown
  | remove (subscriptions : List SubscriptionId) (child : Option ActivityId)
  | done (outcome : Outcome)

/-- What comes of a subscription that is not there. -/
def Goal.missing : Goal → Outcome
  | unsubscribe _ => .unsubscribed (.ok false)
  | reinstall _ => .finished
  | registration => .registration none

namespace Stage

variable {σ κ : Type}

/-- The subscription that a stage is about. -/
def subscription? : Stage σ κ → Option SubscriptionId
  | enter s _ | list s _ | addRoute s _ _ _ _ | awaitRegistration s _ _ _ _ _
  | removeRoute s _ _ _ | withdraw s _ | lock s _ | queue s _ | dropRoute s _ _
  | unlist s _ | awaitRemoval s _ _ _ | deliver s _ => some s
  | _ => none

/-- A stage with what comes of a report to those who listen. -/
def mapFeed (f : Feed ConnectionEvent → Feed ConnectionEvent) : Stage σ κ → Stage σ κ
  | listen feed child => listen (f feed) child
  | stage => stage

/-- A stage that waits for a response, overdue. -/
def overdue : Stage σ κ → Option (Stage σ κ)
  | awaitRegistration s purpose connection correlation request _ =>
    some (awaitRegistration s purpose connection correlation request true)
  | awaitRemoval s token request _ => some (awaitRemoval s token request true)
  | _ => none

end Stage
end Datagrid
