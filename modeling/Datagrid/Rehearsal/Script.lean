import Datagrid.Client.Config
import Datagrid.Event.MapSubscription
import Datagrid.Event.Observer
import Datagrid.Subscription.Basic

/-!
Scripts of rehearsals: what users, the transport and a member do, step by step.
Connections, subscriptions, tokens and watches go by labels.
-/
namespace Datagrid.Rehearsal

/-- What a member answers a request with. -/
inductive ReplyContent where
  /-- What the request asks for. -/
  | granted (registration : Option Uuid) (removed : Bool)
  | frames (frames : List Frame)
  | fault (fault : Fault)

/-- What a member does with a request: steps while it has it, then a delay in
    milliseconds, then the answer. -/
structure Reply (β : Type) where
  during : List β
  delay : Nat
  content : ReplyContent

/-- What an event message holds. -/
inductive EventContent where
  | report (r : EntryReport)
  | frames (frames : List Frame)

/-- How an event message is made: for which map, in answer to which of its
    requests, and of which selection. -/
structure EventSpec where
  map : Option String
  content : EventContent
  selection : Option Selection
  correlation : Option Int64
  generation : Option Nat

/-- How something reaches the system. -/
inductive Way where
  /-- In a call that is waited for. -/
  | direct
  /-- Through a feed, and all others take their turns. -/
  | fed
  /-- Through a feed, and nobody takes a turn. -/
  | queued

structure SubscribeSpec (β : Type) where
  label : String
  map : String
  handlers : List (EventHandler (Observer β))
  key : Option String
  predicate : Option Data
  includeValue : Option Bool
  token : Option String

inductive Background where
  | listener
  | pump

inductive Step where
  | openConnection (connection : String)
  | closeConnection
  | script (map : String) (replies : List (Reply Step))
  | subscribe (spec : SubscribeSpec Step)
  | unsubscribe (subscription : String) (token : Option String)
  | cancel (token : String)
  | connected (connection : String) (way : Way)
  | disconnected (connection : String) (way : Way)
  | event (connection : String) (spec : EventSpec) (pumped : Bool)
  | state (subscription : String)
  | registration (subscription : String)
  | size
  | counts
  | notices
  | watch (subscription label : String)
  | watched (label : String)
  | sleep (milliseconds : Nat)
  | shutdown
  | negotiate (version : UInt8)
  | addMember (member : Member)
  | removeMember (uuid : Uuid)
  | listen
  | closeEvents
  | pump
  | closePump
  | finished (task : Background)
  | settle
  | describe (map : String) (includeValue : Option Bool)
  /-- Steps side by side, each after some milliseconds. -/
  | parallel (runs : List (Nat × Step))
  /-- A step that could not even be taken. -/
  | refuse (fault : Fault)

/-- A notice as it is read: with the label of its subscription. -/
structure NoticeView where
  label : String
  notice : Notice SubscriptionId
  /-- The label of the connection of a reinstallation. -/
  connection : Option String

inductive Answer where
  | ok
  | nothing
  | flag (b : Bool)
  | fault (fault : Fault)
  | state (state : SubscriptionState)
  | uuid (u : Uuid)
  | size (n : Nat)
  | counts (counts : Counts)
  | notices (notices : List NoticeView)
  | member (m : Member)
  /-- The description of the subscriptions of a map. -/
  | description (map : String) (config : SubscriptionConfig) (manager events : String)
  | many (answers : List Answer)

/-- A request that a member has seen. -/
structure Seen where
  map : String
  connection : String
  /-- Its correlation id is above all that were seen before. -/
  fresh : Bool
  retryable : Bool
  /-- The listener it registers, or the registration it removes. -/
  content : (Selection × ListenerRequest) ⊕ Option Uuid

/-- What is noted of the calls of handlers. -/
inductive Note where
  | sighting (s : Sighting)
  /-- What a handler's step was answered with. -/
  | next (answer : Answer)

/-- What a step leads to. -/
structure Report where
  answer : Answer
  /-- The requests seen, by maps. -/
  seen : List Seen
  notes : List Note
  /-- The answers to the steps of the member, by maps. -/
  during : List Answer

end Datagrid.Rehearsal
