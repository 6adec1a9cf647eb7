import Datagrid.Subscription.Move

/-!
What happens in the system. `System.proceed` takes an activity to its next
stage, unless it has to wait; `System.step?` is one move of any kind, by an
activity or by the surroundings. Where an activity may be cancelled, that comes
before an answer, and an answer comes before the end of the time allowed.
-/
namespace Datagrid
namespace System

variable {σ κ : Type}

/-! ## Making a registration -/

/-- Ends the making of a registration that came to nothing. -/
def failInstall (sys : System σ κ) (a : ActivityId) (s : SubscriptionId) (fault : Fault) :
    Purpose → System σ κ
  | .first _ => sys.become a (.withdraw s fault)
  | .again =>
    (((((sys.setState s .failed).count .error).notify (.failed s fault.message)).unlock s).finish a
      .finished)

/-- Ends the making of a registration that has been made. -/
def completeInstall (sys : System σ κ) (a : ActivityId) (s : SubscriptionId)
    (connection : ConnectionId) : Purpose → System σ κ
  | .first _ => ((sys.setState s .active).unlock s).finish a (.subscribed (.ok s))
  | .again =>
    (((((sys.setState s .active).count .reinstall).notify (.reinstalled s connection)).unlock
      s).finish a .finished)

/-- Begins to make a registration: the request of a subscription with a
    correlation id of its own. The lock is held. -/
def install (sys : System σ κ) (a : ActivityId) (s : SubscriptionId) (sub : Subscription σ κ)
    (purpose : Purpose) (connection : ConnectionId) : System σ κ :=
  let (correlation, sys) := sys.freshCorrelation
  match sub.request.copy.setCorrelation correlation with
  | .ok request => sys.become a (.addRoute s purpose connection correlation request)
  | .error fault => sys.failInstall a s fault purpose

/-- Gives up waiting for a registration; whatever still comes of the request is
    taken off again. -/
def abandonInstall (sys : System σ κ) (a : ActivityId) (s : SubscriptionId)
    (sub : Subscription σ κ) (purpose : Purpose) (connection : ConnectionId) (correlation : Int64)
    (request : RequestId) (fault : Fault) : System σ κ :=
  (sys.begin (.release sub.listener connection request)).2.become a
    (.removeRoute s purpose correlation fault)

/-! ## Removing a subscription -/

/-- A request, with a correlation id of its own. -/
def removalRequest (sys : System σ κ) (listener : Listener σ κ) (registration : Uuid) :
    Except Fault Message × System σ κ :=
  match listener.removal registration with
  | .error fault => (.error fault, sys)
  | .ok m =>
    let (correlation, sys) := sys.freshCorrelation
    (m.setCorrelation correlation, sys)

/-- Removes a subscription that has left the table and has no route. A live
    registration is asked to be removed as well. The lock is held. -/
def removeHeld (sys : System σ κ) (a : ActivityId) (s : SubscriptionId) (sub : Subscription σ κ)
    (token : Option TokenId) : System σ κ :=
  let sys := (sys.setState s .removed).notify (.removed s)
  let sys := sys.setRegistration s .none
  match sub.registration.connection, sub.registration.id with
  | some connection, some registration =>
    match sys.removalRequest sub.listener registration with
    | (.error fault, sys) => (sys.unlock s).finish a (.unsubscribed (.error fault))
    | (.ok message, sys) =>
      let (request, sys) := sys.request connection message .spawned
      sys.become a (.awaitRemoval s token request false)
  | _, _ => (sys.unlock s).finish a (.unsubscribed (.ok false))

/-- What the answer to a removal says: a registration whose connection is gone
    is gone with it. -/
def removalResult (listener : Listener σ κ) : Except Fault Message → Except Fault Bool
  | .ok m => listener.removed m
  | .error fault => if fault.isFatal then .ok false else .error fault

/-! ## Holding a lock -/

/-- Goes on once the route of a subscription is dropped. -/
def dropped (sys : System σ κ) (a : ActivityId) (s : SubscriptionId) (sub : Subscription σ κ) :
    Goal → System σ κ
  | .unsubscribe token => sys.removeHeld a s sub token
  | .reinstall connection => sys.install a s sub .again connection
  | .registration => (sys.unlock s).finish a (.registration sub.registration.id)

/-- Drops the route of a subscription, if it has one. -/
def drop (sys : System σ κ) (a : ActivityId) (s : SubscriptionId) (sub : Subscription σ κ)
    (goal : Goal) : System σ κ :=
  match sub.registration.correlation with
  | none => sys.dropped a s sub goal
  | some correlation =>
    (sys.setRegistration s { sub.registration with correlation := none }).become a
      (.dropRoute s correlation goal)

/-- Goes on once the lock of a subscription is held. -/
def held (sys : System σ κ) (a : ActivityId) (s : SubscriptionId) (sub : Subscription σ κ)
    (goal : Goal) : System σ κ :=
  match goal with
  | .registration => (sys.unlock s).finish a (.registration sub.registration.id)
  | .unsubscribe token =>
    if sub.state = .removed then (sys.unlock s).finish a (.unsubscribed (.ok false))
    else sys.become a (.unlist s token)
  | .reinstall connection =>
    if sub.state = .removed ∨
        (sub.state = .active ∧ sub.registration.connection = some connection) then
      (sys.unlock s).finish a .finished
    else (sys.setState s .reinstalling).drop a s sub goal

/-! ## Stages -/

/-- Begins a subscription and takes its lock. -/
def create (sys : System σ κ) (a : ActivityId) (listener : Listener σ κ) (request : Message)
    (token : Option TokenId) : System σ κ :=
  let s : SubscriptionId := sys.subscriptions.length
  let sub : Subscription σ κ :=
    { listener, request, state := .created, registration := .none, holder := some a, waiting := [] }
  System.become { sys with subscriptions := sys.subscriptions ++ [sub] } a (.enter s token)

/-- Begins another activity and waits for it. -/
def delegate (sys : System σ κ) (a : ActivityId) (child : Stage σ κ)
    (wait : Option ActivityId → Stage σ κ) : System σ κ :=
  let (c, sys) := sys.begin child
  sys.become a (wait (some c))

/-- Begins to register everything that counts on a connection. -/
def reinstallAll (sys : System σ κ) (a : ActivityId) (connection : ConnectionId) : System σ κ :=
  let (children, sys) := sys.beginAll (sys.table.map fun s => .lock s (.reinstall connection))
  sys.become a (.join children)

/-- Takes a subscription's activity to its next stage. -/
def proceedOn (sys : System σ κ) (a : ActivityId) (s : SubscriptionId) (sub : Subscription σ κ) :
    Stage σ κ → Option (System σ κ)
  | .enter _ token => some ((sys.setState s .installing).become a (.list s token))
  | .list _ token =>
    let sys := sys.enlist s
    match sys.current with
    | none => some (sys.failInstall a s (.link .notConnected) (.first token))
    | some connection => some (sys.install a s sub (.first token) connection)
  | .addRoute _ purpose connection correlation message =>
    let sys := sys.insertRoute correlation ⟨s, connection⟩
    let (request, sys) := sys.request connection message .spawned
    some (sys.become a (.awaitRegistration s purpose connection correlation request false))
  | .awaitRegistration _ purpose connection correlation request late =>
    if sys.isFired purpose.token then
      some (sys.abandonInstall a s sub purpose connection correlation request .cancelled)
    else
      match sys.reply? request with
      | some reply =>
        match reply.bind sub.listener.registration with
        | .ok id =>
          let sys := sys.setRegistration s ⟨some connection, some id, some correlation⟩
          some (sys.completeInstall a s connection purpose)
        | .error fault => some (sys.become a (.removeRoute s purpose correlation fault))
      | none =>
        if late then
          some (sys.abandonInstall a s sub purpose connection correlation request
            (.delay (.noResponse sys.limit)))
        else none
  | .removeRoute _ purpose correlation fault =>
    let sys := (sys.eraseRoute correlation).setRegistration s .none
    some (sys.failInstall a s fault purpose)
  | .withdraw _ fault =>
    let sys := (sys.delist s).setState s .removed
    some ((sys.unlock s).finish a (.subscribed (.error fault)))
  | .lock _ goal =>
    match sub.holder with
    | none => some ((sys.modify s fun sub => { sub with holder := some a }).held a s sub goal)
    | some _ =>
      some ((sys.modify s fun sub => { sub with waiting := sub.waiting ++ [a] }).become a
        (.queue s goal))
  | .queue _ goal => if sub.holder = some a then some (sys.held a s sub goal) else none
  | .dropRoute _ correlation goal => some ((sys.eraseRoute correlation).dropped a s sub goal)
  | .unlist _ token => some ((sys.delist s).drop a s sub (.unsubscribe token))
  | .awaitRemoval _ token request late =>
    if sys.isFired token then
      some ((sys.unlock s).finish a (.unsubscribed (.error .cancelled)))
    else
      match sys.reply? request with
      | some reply =>
        some ((sys.unlock s).finish a (.unsubscribed (removalResult sub.listener reply)))
      | none =>
        if late then
          some ((sys.unlock s).finish a
            (.unsubscribed (.error (.delay (.noResponse sys.limit)))))
        else none
  | .deliver _ message =>
    if s ∉ sys.table ∨ sub.state = .removed then some (sys.finish a .finished)
    else
      let sys := sys.count .dispatch
      match sub.listener.calls sys.surroundings message with
      | .ok calls => some (sys.become a (.call calls))
      | .error _ => some ((sys.count .error).finish a .finished)
  | _ => none

/-- Takes an activity without a subscription to its next stage. -/
def proceedAlone (sys : System σ κ) (a : ActivityId) : Stage σ κ → Option (System σ κ)
  | .subscribe listener token =>
    if sys.isFired token then some (sys.finish a (.subscribed (.error .cancelled)))
    else
      match listener.request with
      | .error fault => some (sys.finish a (.subscribed (.error fault)))
      | .ok request => some (sys.create a listener request token)
  | .lookup s goal =>
    some (if s ∈ sys.table then sys.become a (.lock s goal) else sys.finish a goal.missing)
  | .release listener connection request =>
    match sys.reply? request with
    | none => none
    | some reply =>
      match reply.bind listener.registration with
      | .error _ => some (sys.finish a .finished)
      | .ok id =>
        match sys.removalRequest listener id with
        | (.error _, sys) => some (sys.finish a .finished)
        | (.ok message, sys) =>
          let (removal, sys) := sys.request connection message .sent
          some (sys.become a (.released removal))
  | .released request =>
    if (sys.reply? request).isSome then some (sys.finish a .finished) else none
  | .event connection message =>
    let sys := sys.count .message
    match message.correlation with
    | .ok correlation => some (sys.become a (.route connection correlation message))
    | .error _ => some ((sys.count .error).finish a .finished)
  | .route connection correlation message =>
    match sys.route? correlation with
    | some route =>
      some (if route.connection = connection then
        sys.become a (.deliver route.subscription message) else sys.finish a .finished)
    | none => some (sys.finish a .finished)
  | .call [] => some (sys.finish a .finished)
  | .react (.connected connection) => some (sys.reinstallAll a connection)
  | .react (.disconnected connection) =>
    some ((sys.eraseConnection connection).finish a .finished)
  | .join children => if children.all sys.isDone then some (sys.finish a .finished) else none
  | .listen feed (some child) =>
    if sys.isDone child then some (sys.become a (.listen feed none)) else none
  | .listen feed none =>
    match feed.take with
    | .item report feed => some (sys.delegate a (.react report) (.listen feed))
    | .lagged feed =>
      match sys.current with
      | some connection => some (sys.delegate a (.react (.connected connection)) (.listen feed))
      | none => some (sys.become a (.listen feed none))
    | .empty => none
    | .closed => some (sys.finish a .finished)
  | .pump feed (some child) =>
    if sys.isDone child then some (sys.become a (.pump feed none)) else none
  | .pump feed none =>
    match feed.take with
    | .item (connection, message) feed =>
      some (sys.delegate a (.event connection message) (.pump feed))
    | .lagged feed => some (sys.become a (.pump feed none))
    | .empty => none
    | .closed => some (sys.finish a .finished)
  | .shutdown => some (sys.become a (.remove sys.table none))
  | .remove [] _ => some (sys.finish a .finished)
  | .remove (s :: rest) none =>
    some (sys.delegate a (.lookup s (.unsubscribe none)) (.remove (s :: rest)))
  | .remove (_ :: rest) (some child) =>
    if sys.isDone child then some (sys.become a (.remove rest none)) else none
  | _ => none

/-- Takes an activity to its next stage, unless it has to wait. -/
def proceed (sys : System σ κ) (a : ActivityId) : Option (System σ κ) :=
  match sys.stage? a with
  | none => none
  | some stage =>
    match stage.subscription? with
    | none => sys.proceedAlone a stage
    | some s =>
      match sys.subscription? s with
      | none => none
      | some sub => sys.proceedOn a s sub stage

/-! ## Moves -/

def advance (sys : System σ κ) (r : RequestId) (f : RequestPhase → Option RequestPhase) :
    Option (System σ κ) := do
  let request ← sys.requests[r]?
  let phase ← f request.phase
  return { sys with requests := sys.requests.set r { request with phase } }

/-- An activity moves on by itself. -/
def shift (sys : System σ κ) (a : ActivityId) (f : Stage σ κ → Option (Stage σ κ)) :
    Option (System σ κ) := do
  let stage ← sys.stage? a
  let stage ← f stage
  return sys.become a stage

/-- One move, where it is possible. -/
def step? (sys : System σ κ) : Move σ κ → Option (System σ κ)
  | .begin beginning => some (sys.begin beginning.stage).2
  | .proceed a => sys.proceed a
  | .send r => sys.advance r fun
    | .spawned => some .sent
    | _ => none
  | .answer r reply => sys.advance r fun
    | .sent => some (.answered reply)
    | _ => none
  | .expire a => sys.shift a Stage.overdue
  | .cancel token => some { sys with fired := token :: sys.fired }
  | .use connection => some { sys with current := connection }
  | .publish event =>
    some { sys with activities := sys.activities.map (Stage.mapFeed (·.push event)) }
  | .closeEvents =>
    some { sys with activities := sys.activities.map (Stage.mapFeed Feed.close) }
  | .offer pump connection message => sys.shift pump fun
    | .pump feed child => (feed.offer? (connection, message)).map (.pump · child)
    | _ => none
  | .closePump pump => sys.shift pump fun
    | .pump feed child => some (.pump feed.close child)
    | _ => none
  | .called a => sys.shift a fun
    | .call (_ :: calls) => some (.call calls)
    | _ => none
  | .surround surroundings => some { sys with surroundings }

end System
end Datagrid
