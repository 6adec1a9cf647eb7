import Datagrid.Rehearsal.Script
import Datagrid.Subscription.Step

/-!
The scene of a rehearsal: the system, a clock that stands still while anybody
has something to do, what the member has seen and is going to answer, and the
tasks that take turns. The first task is that of the user; every request, every
feed and everything abandoned has one of its own.
-/
namespace Datagrid.Rehearsal

/-- A call of a handler that takes steps. -/
abbrev Call := EntryCall (Observer Step)

/-- A task, in the order of their beginning; the user's is the first. -/
abbrev TaskId := Nat

/-- What is under way of a step. -/
inductive Program where
  | start (step : Step)
  /-- Begins a step after some milliseconds. -/
  | later (milliseconds : Nat) (step : Step)
  | asleep (deadline : Nat) (next : Program)
  /-- Lets all others take their turns, so many times. -/
  | yield (times : Nat) (answer : Answer)
  /-- Waits for a place in the feed of a pump, to put an event there. -/
  | offer (ticket : Nat) (pump : ActivityId) (connection : ConnectionId) (message : Message)
  /-- Waits for an activity; a subscription that succeeds gets the label. -/
  | await (a : ActivityId) (label : Option String)
  | parallel (runs : List Program)
  | done (answer : Answer)

/-- What a member is about to do with a request. -/
structure Sending where
  request : RequestId
  map : String
  current : Option Program
  steps : List Step
  delay : Nat
  /-- When the delay is over. -/
  deadline : Option Nat
  reply : Except Fault Message

inductive Task where
  | user
  | request (r : RequestId)
  | activity (a : ActivityId)

/-- What happens when a time has come. -/
inductive Alarm where
  | wake (t : TaskId)
  | expire (a : ActivityId)

/-- Somebody who waits for a place in the feed of a pump. -/
structure Sender where
  ticket : Nat
  task : TaskId
  pump : ActivityId
  /-- A place is kept for them. -/
  admitted : Bool

/-- What a member knows of a map. -/
structure MapBook where
  map : String
  replies : List (Reply Step)
  /-- The correlation ids of the listeners asked for, the oldest first. -/
  asked : List (Int64 × Selection)

structure Scene where
  system : System Surroundings Call
  config : SubscriptionConfig
  /-- Milliseconds since the beginning. -/
  now : Nat
  alarms : List (Nat × Alarm)
  /-- The activities that have an alarm. -/
  timed : List ActivityId
  tasks : List Task
  /-- The task of every activity. -/
  owners : List TaskId
  /-- How many requests have been given a task. -/
  spawned : Nat
  /-- The task that has its turn. -/
  running : Option TaskId
  /-- The tasks that are to have a turn, the user's apart. -/
  queue : List TaskId
  /-- Whether the user's task is to have a turn. -/
  userAwake : Bool
  /-- The tasks that let others go first. -/
  yielding : List TaskId
  /-- The events under way, as far as they have been read. -/
  events : List (ActivityId × EntryEvent)
  /-- The steps of handlers under way. -/
  nested : List (ActivityId × Program)
  sendings : List Sending
  /-- The task that has waited last for the end of a registration's request. -/
  waiters : List (RequestId × TaskId)
  maps : List MapBook
  /-- The highest correlation id that the member has seen. -/
  highest : Option Int64
  /-- The labels of connections and of tokens, in the order of their numbers. -/
  connections : List String
  tokens : List String
  subscriptions : List (String × SubscriptionId)
  watches : List (String × Option SubscriptionId)
  /-- How many connection events are kept for a listener. -/
  channel : Nat
  /-- The connection events are over. -/
  closed : Bool
  listener : Option ActivityId
  pumpTask : Option ActivityId
  /-- The pump that events can be given to. -/
  pump : Option ActivityId
  /-- Who waits for a place in the feed of a pump, in the order they came. -/
  senders : List Sender
  /-- How many tickets for that have been given out. -/
  tickets : Nat
  /-- The pumps whose feeds end with those who wait for a place. -/
  closing : List ActivityId
  /-- How many notices have been read. -/
  noticed : Nat
  seen : List Seen
  notes : List Note
  /-- The answers to the steps of the member, each with the map it was for. -/
  during : List (String × Answer)

/-- A program in the scene. -/
abbrev Play := StateM Scene

def Scene.new (config : SubscriptionConfig) (channel : Nat) (gate : Gate) : Scene where
  system := .new config.timeout ⟨gate, .empty⟩
  config := config
  now := 0
  alarms := []
  timed := []
  tasks := [.user]
  owners := []
  spawned := 0
  running := none
  queue := []
  userAwake := false
  yielding := []
  events := []
  nested := []
  sendings := []
  waiters := []
  maps := []
  highest := none
  connections := []
  tokens := []
  subscriptions := []
  watches := []
  channel := channel
  closed := false
  listener := none
  pumpTask := none
  pump := none
  senders := []
  tickets := 0
  closing := []
  noticed := 0
  seen := []
  notes := []
  during := []

/-! ## Tasks -/

/-- Sees to it that a task has a turn. -/
def Scene.wake (w : Scene) (t : TaskId) : Scene :=
  if t = 0 then { w with userAwake := true }
  else if w.queue.contains t then w
  else { w with queue := w.queue ++ [t] }

def Scene.spawn (w : Scene) (task : Task) : Scene :=
  { w with tasks := w.tasks ++ [task] }.wake w.tasks.length

/-- Gives new activities their tasks. -/
def Scene.adopt (w : Scene) (stage : Stage Surroundings Call) (a : ActivityId) : Scene :=
  match stage with
  | .release _ _ _ | .listen _ _ | .pump _ _ =>
    { w with owners := w.owners ++ [w.tasks.length] }.spawn (.activity a)
  | _ => { w with owners := w.owners ++ [w.running.getD 0] }

/-- Gives new requests their tasks. -/
def Scene.dispatch (w : Scene) (request : Request) (r : RequestId) : Scene :=
  let w := { w with spawned := w.spawned + 1 }
  match request.phase with
  | .spawned => w.spawn (.request r)
  | _ => w

/-- Sets the alarm of an activity that waits for a response. -/
def Scene.time (w : Scene) (a : ActivityId) : Scene :=
  match w.system.stage? a with
  | some (.awaitRegistration ..) | some (.awaitRemoval ..) =>
    if w.timed.contains a then w
    else
      { w with
        timed := a :: w.timed
        alarms := w.alarms ++ [(w.now + w.config.timeout.millisecondsUp, .expire a)] }
  | _ => w

/-- The free places in the feed of a pump. -/
def Scene.places (w : Scene) (pump : ActivityId) : Nat :=
  match w.system.stage? pump with
  | some (.pump feed _) =>
    feed.capacity - feed.items.length -
      w.senders.countP fun sender => sender.pump == pump && sender.admitted
  | _ => 0

/-- Keeps a free place for the one who has waited for it longest. -/
def Scene.admit (w : Scene) : Scene :=
  match w.senders.find? fun sender => !sender.admitted && 0 < w.places sender.pump with
  | none => w
  | some first =>
    let senders := w.senders.map fun sender =>
      if sender.ticket == first.ticket then { sender with admitted := true } else sender
    { w with senders }.wake first.task

def Scene.canProceed (w : Scene) (a : ActivityId) : Bool := (w.system.proceed a).isSome

/-- Wakes the tasks whose activities can go on, except the one that has its
    turn. -/
def Scene.rouse (w : Scene) : Scene :=
  w.owners.zipIdx.foldl
    (fun w (owner, a) => if w.running ≠ some owner ∧ w.canProceed a then w.wake owner else w) w

/-- The scene after a move of the system. -/
def Scene.settle (w : Scene) : Scene :=
  let activities := w.system.activities.zipIdx.drop w.owners.length
  let w := activities.foldl (fun w (stage, a) => w.adopt stage a) w
  let requests := w.system.requests.zipIdx.drop w.spawned
  let w := requests.foldl (fun w (request, r) => w.dispatch request r) w
  let w := (List.range w.owners.length).foldl Scene.time w
  w.admit.rouse

/-- Makes a move of the system, where it is possible. -/
def act (move : Move Surroundings Call) : Play Bool := do
  let w ← get
  match w.system.step? move with
  | none => return false
  | some system =>
    set { w with system }.settle
    return true

/-- Begins something, and tells which activity it is. -/
def begin (beginning : Beginning Surroundings Call) : Play ActivityId := do
  let a := (← get).system.activities.length
  let _ ← act (.begin beginning)
  return a

/-- Has the task that has its turn woken at the end of a request, in place of any
    other. -/
def wakeAfter (r : RequestId) : Play Unit :=
  modify fun w =>
    { w with waiters := (r, w.running.getD 0) :: w.waiters.filter (·.1 != r) }

/-- Has the task that has its turn woken at a time. -/
def wakeAt (deadline : Nat) : Play Unit :=
  modify fun w => { w with alarms := w.alarms ++ [(deadline, .wake (w.running.getD 0))] }

/-! ## Labels -/

/-- The number of a label, a new one on its first use. -/
def Scene.label (labels : List String) (label : String) : Nat × List String :=
  match labels.idxOf? label with
  | some n => (n, labels)
  | none => (labels.length, labels ++ [label])

def connection (label : String) : Play ConnectionId := do
  let w ← get
  let (c, connections) := Scene.label w.connections label
  set { w with connections }
  return c

def token (label : String) : Play TokenId := do
  let w ← get
  let (t, tokens) := Scene.label w.tokens label
  set { w with tokens }
  return t

def token? (label : Option String) : Play (Option TokenId) := label.mapM token

def Scene.connectionLabel (w : Scene) (c : ConnectionId) : String := w.connections.getD c ""

/-- The label of a subscription, if it still has one. -/
def Scene.subscriptionLabel (w : Scene) (s : SubscriptionId) : String :=
  ((w.subscriptions.find? (·.2 == s)).map (·.1)).getD "?"

def Scene.subscription? (w : Scene) (label : String) : Option SubscriptionId :=
  w.subscriptions.lookup label

/-- Gives a subscription a label, in place of any other that has it. -/
def Scene.bind (w : Scene) (label : String) (s : SubscriptionId) : Scene :=
  { w with subscriptions := (label, s) :: w.subscriptions.filter (·.1 != label) }

def Scene.book (w : Scene) (map : String) : MapBook :=
  (w.maps.find? (·.map == map)).getD ⟨map, [], []⟩

def Scene.setBook (w : Scene) (book : MapBook) : Scene :=
  { w with maps := book :: w.maps.filter (·.map != book.map) }

end Datagrid.Rehearsal
