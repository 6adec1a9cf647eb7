import Datagrid.Subscription.Stage

/-!
The system that keeps subscriptions: the subscriptions themselves, the routes by
which events find them, the requests on their way, and the activities under way.
-/
namespace Datagrid

structure System (σ κ : Type) where
  /-- How long a request may take. -/
  limit : Timespan
  surroundings : σ
  /-- The connection for new requests. -/
  current : Option ConnectionId
  /-- All subscriptions there have ever been. -/
  subscriptions : List (Subscription σ κ)
  /-- Those that count. -/
  table : List SubscriptionId
  routes : List (Int64 × Route)
  requests : List Request
  activities : List (Stage σ κ)
  /-- The tokens that have fired. -/
  fired : List TokenId
  /-- How many correlation ids have been used. -/
  correlations : Nat
  /-- All notices there have ever been, the oldest first. -/
  notices : List (Notice SubscriptionId)
  counts : Counts

namespace System

variable {σ κ : Type}

def new (limit : Timespan) (surroundings : σ) : System σ κ where
  limit := limit
  surroundings := surroundings
  current := none
  subscriptions := []
  table := []
  routes := []
  requests := []
  activities := []
  fired := []
  correlations := 0
  notices := []
  counts := .zero

/-! ## Subscriptions -/

def subscription? (sys : System σ κ) (s : SubscriptionId) : Option (Subscription σ κ) :=
  sys.subscriptions[s]?

def modify (sys : System σ κ) (s : SubscriptionId) (f : Subscription σ κ → Subscription σ κ) :
    System σ κ :=
  { sys with subscriptions := sys.subscriptions.modify s f }

def setState (sys : System σ κ) (s : SubscriptionId) (state : SubscriptionState) : System σ κ :=
  sys.modify s fun sub => { sub with state }

def setRegistration (sys : System σ κ) (s : SubscriptionId) (registration : Registration) :
    System σ κ :=
  sys.modify s fun sub => { sub with registration }

/-- The state of a subscription that counts. -/
def state? (sys : System σ κ) (s : SubscriptionId) : Option SubscriptionState :=
  if s ∈ sys.table then (sys.subscription? s).map (·.state) else none

def enlist (sys : System σ κ) (s : SubscriptionId) : System σ κ :=
  { sys with table := sys.table ++ [s] }

def delist (sys : System σ κ) (s : SubscriptionId) : System σ κ :=
  { sys with table := sys.table.filter (· != s) }

/-- Gives the lock of a subscription to the one who has waited longest. -/
def unlock (sys : System σ κ) (s : SubscriptionId) : System σ κ :=
  sys.modify s fun sub => { sub with holder := sub.waiting.head?, waiting := sub.waiting.drop 1 }

/-! ## Routes, requests, notices and counts -/

/-- Where events with a correlation id belong. -/
def route? (sys : System σ κ) (correlation : Int64) : Option Route := sys.routes.lookup correlation

def eraseRoute (sys : System σ κ) (correlation : Int64) : System σ κ :=
  { sys with routes := sys.routes.filter (·.1 != correlation) }

def insertRoute (sys : System σ κ) (correlation : Int64) (route : Route) : System σ κ :=
  { sys with routes := (correlation, route) :: (sys.eraseRoute correlation).routes }

/-- Drops the routes of a connection. -/
def eraseConnection (sys : System σ κ) (connection : ConnectionId) : System σ κ :=
  { sys with routes := sys.routes.filter (·.2.connection != connection) }

/-- The next correlation id, and the system once it is used. -/
def freshCorrelation (sys : System σ κ) : Int64 × System σ κ :=
  (Int64.ofNat (sys.correlations + 1), { sys with correlations := sys.correlations + 1 })

/-- Adds a request, and tells which it is. -/
def request (sys : System σ κ) (connection : ConnectionId) (message : Message)
    (phase : RequestPhase) : RequestId × System σ κ :=
  (sys.requests.length, { sys with requests := sys.requests ++ [⟨connection, message, phase⟩] })

/-- What has been answered to a request. -/
def reply? (sys : System σ κ) (r : RequestId) : Option (Except Fault Message) :=
  match sys.requests[r]? with
  | some ⟨_, _, .answered reply⟩ => some reply
  | _ => none

def notify (sys : System σ κ) (notice : Notice SubscriptionId) : System σ κ :=
  { sys with notices := sys.notices ++ [notice] }

def count (sys : System σ κ) (f : Counts → Counts) : System σ κ :=
  { sys with counts := f sys.counts }

/-- Whether a token is there and has fired. -/
def isFired (sys : System σ κ) (token : Option TokenId) : Bool :=
  token.any (sys.fired.contains ·)

/-! ## Activities -/

def stage? (sys : System σ κ) (a : ActivityId) : Option (Stage σ κ) := sys.activities[a]?

def become (sys : System σ κ) (a : ActivityId) (stage : Stage σ κ) : System σ κ :=
  { sys with activities := sys.activities.set a stage }

/-- Begins an activity, and tells which it is. -/
def begin (sys : System σ κ) (stage : Stage σ κ) : ActivityId × System σ κ :=
  (sys.activities.length, { sys with activities := sys.activities ++ [stage] })

/-- Begins some activities, and tells which they are. -/
def beginAll (sys : System σ κ) : List (Stage σ κ) → List ActivityId × System σ κ
  | [] => ([], sys)
  | stage :: rest =>
    let (a, sys) := sys.begin stage
    let (others, sys) := sys.beginAll rest
    (a :: others, sys)

def finish (sys : System σ κ) (a : ActivityId) (outcome : Outcome) : System σ κ :=
  sys.become a (.done outcome)

/-- What an activity has come to. -/
def outcome? (sys : System σ κ) (a : ActivityId) : Option Outcome :=
  match sys.stage? a with
  | some (.done outcome) => some outcome
  | _ => none

def isDone (sys : System σ κ) (a : ActivityId) : Bool := (sys.outcome? a).isSome

end System
end Datagrid
