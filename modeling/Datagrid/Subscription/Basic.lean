import Datagrid.Wire.Message

/-!
Subscriptions as their users see them: states, notices of what becomes of them
behind the back of a call, and counts. A connection, a subscription and a token
are known by numbers that are never used twice.
-/
namespace Datagrid

/-- A connection to a member; one that takes another's place has a number of
    its own. -/
abbrev ConnectionId := Nat

/-- A subscription, in the order of their creation. -/
abbrev SubscriptionId := Nat

/-- A token with which a call can be cancelled. -/
abbrev TokenId := Nat

inductive SubscriptionState where
  /-- Nothing has been sent. -/
  | created
  /-- The first request is on its way. -/
  | installing
  /-- Registered on a connection: events are delivered. -/
  | active
  /-- The request is on its way again, on another connection. -/
  | reinstalling
  /-- Could not be registered again; the next connection may do. -/
  | failed
  /-- Gone for good. -/
  | removed
  deriving DecidableEq

namespace SubscriptionState

def all : List SubscriptionState :=
  [created, installing, active, reinstalling, failed, removed]

def isActive (s : SubscriptionState) : Bool := s == active

def name : SubscriptionState → String
  | created => "Created"
  | installing => "Installing"
  | active => "Active"
  | reinstalling => "Reinstalling"
  | failed => "Failed"
  | removed => "Removed"

end SubscriptionState

/-- What becomes of a subscription behind the back of a call. -/
inductive Notice (ι : Type) where
  /-- It is registered again, on another connection. -/
  | reinstalled (subscription : ι) (connection : ConnectionId)
  /-- It could not be registered again. -/
  | failed (subscription : ι) (reason : String)
  | removed (subscription : ι)
  deriving DecidableEq

namespace Notice

variable {ι : Type}

def subscription : Notice ι → ι
  | reinstalled s _ => s
  | failed s _ => s
  | removed s => s

/-- The notice as a fault, if it is of a failure. -/
def fault? (name : ι → Uuid) : Notice ι → Option Fault
  | failed s reason => some (.reinstall (name s) reason)
  | reinstalled _ _ | removed _ => none

end Notice

def subscriptionText (u : Uuid) : String := "subscription-" ++ u.text

/-- What has been counted of all subscriptions. -/
structure Counts where
  messages : Nat
  dispatched : Nat
  errors : Nat
  reinstalls : Nat
  deriving DecidableEq

namespace Counts

def zero : Counts := ⟨0, 0, 0, 0⟩

def message (c : Counts) : Counts := { c with messages := c.messages + 1 }
def dispatch (c : Counts) : Counts := { c with dispatched := c.dispatched + 1 }
def error (c : Counts) : Counts := { c with errors := c.errors + 1 }
def reinstall (c : Counts) : Counts := { c with reinstalls := c.reinstalls + 1 }

/-- The text of counts for diagnostics. -/
def debugText (c : Counts) : String :=
  s!"ListenerStats \x7b messages_received: {c.messages}, events_dispatched: {c.dispatched}, " ++
    s!"errors: {c.errors}, reinstalls: {c.reinstalls} \x7d"

end Counts

/-- What a transport reports of its connections. -/
inductive ConnectionEvent where
  | connected (connection : ConnectionId)
  | disconnected (connection : ConnectionId)
  deriving DecidableEq

end Datagrid
