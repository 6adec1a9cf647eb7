import Datagrid.Subscription.Step
import Mathlib.Data.List.Basic

/-!
Turns of activities that have a subscription. `System.Turn` lists all that such an
activity can do in one turn, each with what has to be so for it and with everything
that it changes.
-/
namespace Datagrid

variable {σ κ : Type}

namespace Subscription

/-- A subscription whose lock an activity has got. -/
@[simps]
def ownedBy (sub : Subscription σ κ) (a : ActivityId) : Subscription σ κ := { sub with holder := some a }

/-- A subscription whose lock goes to the one who has waited longest. -/
@[simps]
def unlocked (sub : Subscription σ κ) : Subscription σ κ :=
  { sub with holder := sub.waiting.head?, waiting := sub.waiting.drop 1 }

/-- A subscription in another state. -/
@[simps]
def inState (sub : Subscription σ κ) (state : SubscriptionState) : Subscription σ κ := { sub with state }

/-- A subscription that is registered. -/
@[simps listener request state registration holder waiting]
def registered (sub : Subscription σ κ) (connection : ConnectionId) (id : Uuid) (correlation : Int64) :
    Subscription σ κ :=
  { sub with state := .active, registration := ⟨some connection, some id, some correlation⟩ }

/-- A subscription without a registration. -/
@[simps listener request state registration holder waiting]
def unregistered (sub : Subscription σ κ) : Subscription σ κ := { sub with registration := .none }

/-- A subscription without the correlation id of its route. -/
@[simps listener request state registration holder waiting]
def unrouted (sub : Subscription σ κ) : Subscription σ κ :=
  { sub with registration := { sub.registration with correlation := none } }

/-- A subscription that a connection needs no new registration of. -/
def Spared (sub : Subscription σ κ) (connection : ConnectionId) : Prop :=
  sub.state = .removed ∨ (sub.state = .active ∧ sub.registration.connection = some connection)

end Subscription

/-- What there is after a turn, so far as a turn can change it. -/
structure Change (σ κ : Type) where
  subscriptions : List (Subscription σ κ)
  table : List SubscriptionId
  routes : List (Int64 × Route)
  requests : List Request
  correlations : Nat
  notices : List (Notice SubscriptionId)
  counts : Counts
  /-- The activities that begin. -/
  started : List (Stage σ κ)
  /-- The stage that the activity comes to. -/
  stage : Stage σ κ

namespace System

/-- The system after a turn of an activity. -/
@[simps]
def after (sys : System σ κ) (a : ActivityId) (change : Change σ κ) : System σ κ :=
  { sys with
    subscriptions := change.subscriptions
    table := change.table
    routes := change.routes
    requests := change.requests
    correlations := change.correlations
    notices := change.notices
    counts := change.counts
    activities := (sys.activities ++ change.started).set a change.stage }

/-- The turn that brings an activity to a stage, and does nothing else. -/
@[simps]
def moving (sys : System σ κ) (stage : Stage σ κ) : Change σ κ where
  subscriptions := sys.subscriptions
  table := sys.table
  routes := sys.routes
  requests := sys.requests
  correlations := sys.correlations
  notices := sys.notices
  counts := sys.counts
  started := []
  stage := stage

/-- The turn that also leaves a subscription as it says. -/
@[simps]
def putting (sys : System σ κ) (s : SubscriptionId) (sub : Subscription σ κ) (stage : Stage σ κ) :
    Change σ κ :=
  { sys.moving stage with subscriptions := sys.subscriptions.set s sub }

/-- The correlation id that is used next. -/
def nextCorrelation (sys : System σ κ) : Int64 := Int64.ofNat (sys.correlations + 1)

/-- The routes but those with a correlation id. -/
def routesBut (sys : System σ κ) (correlation : Int64) : List (Int64 × Route) :=
  sys.routes.filter (·.1 != correlation)

/-- The table without a subscription. -/
def tableBut (sys : System σ κ) (s : SubscriptionId) : List SubscriptionId := sys.table.filter (· != s)

/-- Nobody waits for a request any longer: it was cancelled, or it is overdue. -/
def Interrupted (sys : System σ κ) (token : Option TokenId) (request : RequestId) (late : Bool)
    (fault : Fault) : Prop :=
  (sys.isFired token = true ∧ fault = .cancelled) ∨
    (sys.isFired token = false ∧ sys.reply? request = none ∧ late = true ∧
      fault = .delay (.noResponse sys.limit))

/-- A request has been answered, in time. -/
def Answered (sys : System σ κ) (token : Option TokenId) (request : RequestId)
    (reply : Except Fault Message) : Prop :=
  sys.isFired token = false ∧ sys.reply? request = some reply

/-- An activity has the lock that it came for: a free one, or one it was given. -/
inductive Acquires (a : ActivityId) (s : SubscriptionId) (sub : Subscription σ κ) (goal : Goal) :
    Stage σ κ → Prop where
  | free : sub.holder = none → Acquires a s sub goal (.lock s goal)
  | given : sub.holder = some a → Acquires a s sub goal (.queue s goal)

/-- A subscription about to be registered again has no route, any longer. -/
inductive Renews (sys : System σ κ) (a : ActivityId) (s : SubscriptionId) (sub : Subscription σ κ)
    (connection : ConnectionId) : Stage σ κ → Subscription σ κ → List (Int64 × Route) → Prop where
  | unrouted {stage : Stage σ κ} :
      Acquires a s sub (.reinstall connection) stage → ¬ sub.Spared connection →
      sub.registration.correlation = none →
      Renews sys a s sub connection stage ((sub.ownedBy a).inState .reinstalling) sys.routes
  | dropped (correlation : Int64) :
      Renews sys a s sub connection (.dropRoute s correlation (.reinstall connection)) sub
        (sys.routesBut correlation)

/-- A subscription about to be removed has left the table and has no route, any
    longer. -/
inductive Leaves (sys : System σ κ) (s : SubscriptionId) (sub : Subscription σ κ)
    (token : Option TokenId) : Stage σ κ → List SubscriptionId → List (Int64 × Route) → Prop where
  | unrouted : sub.registration.correlation = none →
      Leaves sys s sub token (.unlist s token) (sys.tableBut s) sys.routes
  | dropped (correlation : Int64) :
      Leaves sys s sub token (.dropRoute s correlation (.unsubscribe token)) sys.table
        (sys.routesBut correlation)

end System

namespace System

/-- All that an activity can do in one turn to its subscription. -/
inductive Turn (sys : System σ κ) (a : ActivityId) (s : SubscriptionId) (sub : Subscription σ κ) :
    Stage σ κ → Change σ κ → Prop where
  | enter (token : Option TokenId) :
      Turn sys a s sub (.enter s token) (sys.putting s (sub.inState .installing) (.list s token))
  | unconnected (token : Option TokenId) : sys.current = none →
      Turn sys a s sub (.list s token)
        { sys.moving (.withdraw s (.link .notConnected)) with table := sys.table ++ [s] }
  | list (token : Option TokenId) {connection : ConnectionId} {message : Message} :
      sys.current = some connection →
      sub.request.copy.setCorrelation sys.nextCorrelation = .ok message →
      Turn sys a s sub (.list s token)
        { sys.moving (.addRoute s (.first token) connection sys.nextCorrelation message) with
          table := sys.table ++ [s]
          correlations := sys.correlations + 1 }
  | unready (token : Option TokenId) {connection : ConnectionId} {fault : Fault} :
      sys.current = some connection →
      sub.request.copy.setCorrelation sys.nextCorrelation = .error fault →
      Turn sys a s sub (.list s token)
        { sys.moving (.withdraw s fault) with
          table := sys.table ++ [s]
          correlations := sys.correlations + 1 }
  | addRoute (purpose : Purpose) (connection : ConnectionId) (correlation : Int64) (message : Message) :
      Turn sys a s sub (.addRoute s purpose connection correlation message)
        { sys.moving (.awaitRegistration s purpose connection correlation sys.requests.length false) with
          routes := (correlation, ⟨s, connection⟩) :: sys.routesBut correlation
          requests := sys.requests ++ [⟨connection, message, .spawned⟩] }
  | abandon {purpose : Purpose} (connection : ConnectionId) (correlation : Int64) {request : RequestId}
      {late : Bool} {fault : Fault} :
      sys.Interrupted purpose.token request late fault →
      Turn sys a s sub (.awaitRegistration s purpose connection correlation request late)
        { sys.moving (.removeRoute s purpose correlation fault) with
          started := [.release sub.listener connection request] }
  | refuse {purpose : Purpose} (connection : ConnectionId) (correlation : Int64) {request : RequestId}
      (late : Bool) {reply : Except Fault Message} {fault : Fault} :
      sys.Answered purpose.token request reply → reply.bind sub.listener.registration = .error fault →
      Turn sys a s sub (.awaitRegistration s purpose connection correlation request late)
        (sys.moving (.removeRoute s purpose correlation fault))
  | registerFirst {token : Option TokenId} (connection : ConnectionId) (correlation : Int64)
      {request : RequestId} (late : Bool) {reply : Except Fault Message} {id : Uuid} :
      sys.Answered token request reply → reply.bind sub.listener.registration = .ok id →
      Turn sys a s sub (.awaitRegistration s (.first token) connection correlation request late)
        (sys.putting s (sub.registered connection id correlation).unlocked (.done (.subscribed (.ok s))))
  | registerAgain (connection : ConnectionId) (correlation : Int64) {request : RequestId} (late : Bool)
      {reply : Except Fault Message} {id : Uuid} :
      sys.Answered none request reply → reply.bind sub.listener.registration = .ok id →
      Turn sys a s sub (.awaitRegistration s .again connection correlation request late)
        { sys.putting s (sub.registered connection id correlation).unlocked (.done .finished) with
          notices := sys.notices ++ [.reinstalled s connection]
          counts := sys.counts.reinstall }
  | undoFirst (token : Option TokenId) (correlation : Int64) (fault : Fault) :
      Turn sys a s sub (.removeRoute s (.first token) correlation fault)
        { sys.putting s sub.unregistered (.withdraw s fault) with
          routes := sys.routesBut correlation }
  | undoAgain (correlation : Int64) (fault : Fault) :
      Turn sys a s sub (.removeRoute s .again correlation fault)
        { sys.putting s (sub.unregistered.inState .failed).unlocked
            (.done .finished) with
          routes := sys.routesBut correlation
          notices := sys.notices ++ [.failed s fault.message]
          counts := sys.counts.error }
  | withdraw (fault : Fault) :
      Turn sys a s sub (.withdraw s fault)
        { sys.putting s (sub.inState .removed).unlocked
            (.done (.subscribed (.error fault))) with
          table := sys.tableBut s }
  | wait (goal : Goal) {holder : ActivityId} : sub.holder = some holder →
      Turn sys a s sub (.lock s goal)
        (sys.putting s { sub with waiting := sub.waiting ++ [a] } (.queue s goal))
  | learn {stage : Stage σ κ} : Acquires a s sub .registration stage →
      Turn sys a s sub stage
        (sys.putting s (sub.ownedBy a).unlocked (.done (.registration sub.registration.id)))
  | tooLate {stage : Stage σ κ} {token : Option TokenId} : Acquires a s sub (.unsubscribe token) stage →
      sub.state = .removed →
      Turn sys a s sub stage (sys.putting s (sub.ownedBy a).unlocked (.done (.unsubscribed (.ok false))))
  | beginRemoval {stage : Stage σ κ} {token : Option TokenId} :
      Acquires a s sub (.unsubscribe token) stage → sub.state ≠ .removed →
      Turn sys a s sub stage (sys.putting s (sub.ownedBy a) (.unlist s token))
  | skip {stage : Stage σ κ} {connection : ConnectionId} : Acquires a s sub (.reinstall connection) stage →
      sub.Spared connection →
      Turn sys a s sub stage (sys.putting s (sub.ownedBy a).unlocked (.done .finished))
  | dropAgain {stage : Stage σ κ} {connection : ConnectionId} {correlation : Int64} :
      Acquires a s sub (.reinstall connection) stage → ¬ sub.Spared connection →
      sub.registration.correlation = some correlation →
      Turn sys a s sub stage
        (sys.putting s ((sub.ownedBy a).inState .reinstalling).unrouted
          (.dropRoute s correlation (.reinstall connection)))
  | installAgain {stage : Stage σ κ} {connection : ConnectionId} {renewed : Subscription σ κ}
      {routes : List (Int64 × Route)} {message : Message} :
      Renews sys a s sub connection stage renewed routes →
      sub.request.copy.setCorrelation sys.nextCorrelation = .ok message →
      Turn sys a s sub stage
        { sys.putting s renewed (.addRoute s .again connection sys.nextCorrelation message) with
          routes := routes
          correlations := sys.correlations + 1 }
  | failAgain {stage : Stage σ κ} {connection : ConnectionId} {renewed : Subscription σ κ}
      {routes : List (Int64 × Route)} {fault : Fault} :
      Renews sys a s sub connection stage renewed routes →
      sub.request.copy.setCorrelation sys.nextCorrelation = .error fault →
      Turn sys a s sub stage
        { sys.putting s (renewed.inState .failed).unlocked (.done .finished) with
          routes := routes
          correlations := sys.correlations + 1
          notices := sys.notices ++ [.failed s fault.message]
          counts := sys.counts.error }
  | unlist (token : Option TokenId) {correlation : Int64} :
      sub.registration.correlation = some correlation →
      Turn sys a s sub (.unlist s token)
        { sys.putting s sub.unrouted (.dropRoute s correlation (.unsubscribe token)) with
          table := sys.tableBut s }
  | removeUnregistered {stage : Stage σ κ} {token : Option TokenId} {table : List SubscriptionId}
      {routes : List (Int64 × Route)} :
      Leaves sys s sub token stage table routes →
      sub.registration.connection = none ∨ sub.registration.id = none →
      Turn sys a s sub stage
        { sys.putting s (sub.unregistered.inState .removed).unlocked (.done (.unsubscribed (.ok false))) with
          table := table
          routes := routes
          notices := sys.notices ++ [.removed s] }
  | removeUnsaid {stage : Stage σ κ} {token : Option TokenId} {table : List SubscriptionId}
      {routes : List (Int64 × Route)} {connection : ConnectionId} {id : Uuid} {fault : Fault}
      {correlations : Nat} :
      Leaves sys s sub token stage table routes →
      sub.registration.connection = some connection → sub.registration.id = some id →
      (sub.listener.removal id = .error fault ∧ correlations = sys.correlations) ∨
        (∃ m, sub.listener.removal id = .ok m ∧ m.setCorrelation sys.nextCorrelation = .error fault ∧
          correlations = sys.correlations + 1) →
      Turn sys a s sub stage
        { sys.putting s (sub.unregistered.inState .removed).unlocked (.done (.unsubscribed (.error fault))) with
          table := table
          routes := routes
          correlations := correlations
          notices := sys.notices ++ [.removed s] }
  | remove {stage : Stage σ κ} {token : Option TokenId} {table : List SubscriptionId}
      {routes : List (Int64 × Route)} {connection : ConnectionId} {id : Uuid} {m message : Message} :
      Leaves sys s sub token stage table routes →
      sub.registration.connection = some connection → sub.registration.id = some id →
      sub.listener.removal id = .ok m → m.setCorrelation sys.nextCorrelation = .ok message →
      Turn sys a s sub stage
        { sys.putting s (sub.unregistered.inState .removed) (.awaitRemoval s token sys.requests.length false) with
          table := table
          routes := routes
          requests := sys.requests ++ [⟨connection, message, .spawned⟩]
          correlations := sys.correlations + 1
          notices := sys.notices ++ [.removed s] }
  | learnDropped (correlation : Int64) :
      Turn sys a s sub (.dropRoute s correlation .registration)
        { sys.putting s sub.unlocked (.done (.registration sub.registration.id)) with
          routes := sys.routesBut correlation }
  | interrupted {token : Option TokenId} {request : RequestId} {late : Bool} {fault : Fault} :
      sys.Interrupted token request late fault →
      Turn sys a s sub (.awaitRemoval s token request late)
        (sys.putting s sub.unlocked (.done (.unsubscribed (.error fault))))
  | answered {token : Option TokenId} {request : RequestId} (late : Bool) {reply : Except Fault Message} :
      sys.Answered token request reply →
      Turn sys a s sub (.awaitRemoval s token request late)
        (sys.putting s sub.unlocked (.done (.unsubscribed (removalResult sub.listener reply))))
  | missed (message : Message) : s ∉ sys.table ∨ sub.state = .removed →
      Turn sys a s sub (.deliver s message) (sys.moving (.done .finished))
  | deliver {message : Message} {calls : List κ} : s ∈ sys.table → sub.state ≠ .removed →
      sub.listener.calls sys.surroundings message = .ok calls →
      Turn sys a s sub (.deliver s message)
        { sys.moving (.call calls) with counts := sys.counts.dispatch }
  | undeliverable {message : Message} {fault : Fault} : s ∈ sys.table → sub.state ≠ .removed →
      sub.listener.calls sys.surroundings message = .error fault →
      Turn sys a s sub (.deliver s message)
        { sys.moving (.done .finished) with counts := sys.counts.dispatch.error }

/-! ## A turn is one of these -/

section
variable {sys next base : System σ κ} {a : ActivityId} {s : SubscriptionId} {sub : Subscription σ κ}
  {stage : Stage σ κ}

private theorem modify_found (found : sys.subscription? s = some sub)
    (f : Subscription σ κ → Subscription σ κ) :
    sys.subscriptions.modify s f = sys.subscriptions.set s (f sub) := by
  unfold subscription? at found
  rw [List.modify_eq_set_getElem?]
  simp [found]

private theorem set_modify (subs : List (Subscription σ κ)) (f : Subscription σ κ → Subscription σ κ) :
    (subs.set s sub).modify s f = subs.set s (f sub) := by
  apply List.ext_getElem?
  intro i
  rw [List.getElem?_modify, List.getElem?_set, List.getElem?_set]
  by_cases same : s = i
  · subst same
    by_cases bound : s < subs.length <;> simp [bound]
  · simp [same]

theorem set_found (found : sys.subscription? s = some sub) :
    sys.subscriptions.set s sub = sys.subscriptions := by
  obtain ⟨bound, same⟩ := List.getElem?_eq_some_iff.mp found
  rw [← same, List.set_getElem_self]

theorem become_eq (sys : System σ κ) (a : ActivityId) (stage : Stage σ κ) :
    sys.become a stage = sys.after a (sys.moving stage) := by
  simp [become, after, moving]

theorem finish_eq (sys : System σ κ) (a : ActivityId) (outcome : Outcome) :
    sys.finish a outcome = sys.after a (sys.moving (.done outcome)) := become_eq ..

private theorem freshCorrelation_eq (sys : System σ κ) :
    sys.freshCorrelation = (sys.nextCorrelation, { sys with correlations := sys.correlations + 1 }) := rfl

private theorem install_turn {connection : ConnectionId} {renewed asked : Subscription σ κ}
    {routes : List (Int64 × Route)} (ready : Renews sys a s sub connection stage renewed routes)
    (same : base = { sys with subscriptions := sys.subscriptions.set s renewed, routes := routes })
    (request : asked.request = sub.request) :
    ∃ change, Turn sys a s sub stage change ∧
      base.install a s asked .again connection = sys.after a change := by
  have next : base.nextCorrelation = sys.nextCorrelation := by rw [same]; rfl
  cases set : sub.request.copy.setCorrelation sys.nextCorrelation with
  | ok message =>
    refine ⟨_, .installAgain ready set, ?_⟩
    simp only [install, freshCorrelation_eq, request, next, set]
    simp [same, become, after, putting, moving]
  | error fault =>
    refine ⟨_, .failAgain ready set, ?_⟩
    simp only [install, freshCorrelation_eq, request, next, set, failInstall]
    simp [same, become, finish, unlock, notify, count, setState, modify, after, putting, moving, set_modify,
      Subscription.unlocked, Subscription.inState]

private theorem remove_turn {token : Option TokenId} {table : List SubscriptionId}
    {routes : List (Int64 × Route)} (found : sys.subscription? s = some sub)
    (leaves : Leaves sys s sub token stage table routes)
    (same : base = { sys with table := table, routes := routes }) :
    ∃ change, Turn sys a s sub stage change ∧ base.removeHeld a s sub token = sys.after a change := by
  let left : System σ κ := { base with
    subscriptions := sys.subscriptions.set s (sub.unregistered.inState .removed), notices := sys.notices ++ [.removed s] }
  have gone : (((base.setState s .removed).notify (.removed s)).setRegistration s .none) = left := by
    simp [left, same, setState, notify, setRegistration, modify, modify_found found, set_modify,
      Subscription.unregistered, Subscription.inState]
  have fresh : left.freshCorrelation =
      (sys.nextCorrelation, { left with correlations := sys.correlations + 1 }) := by simp [left, same]; rfl
  have unregistered (none : sub.registration.connection = none ∨ sub.registration.id = none) :
      ∃ change, Turn sys a s sub stage change ∧
        (left.unlock s).finish a (.unsubscribed (.ok false)) = sys.after a change := by
    refine ⟨_, .removeUnregistered leaves none, ?_⟩
    simp [left, same, unlock, finish, become, modify, set_modify, after, putting, moving,
      Subscription.unlocked]
  unfold removeHeld
  simp only [gone]
  cases connected : sub.registration.connection with
  | none => exact unregistered (.inl connected)
  | some connection =>
    cases identified : sub.registration.id with
    | none => exact unregistered (.inr identified)
    | some id =>
      cases removal : sub.listener.removal id with
      | error fault =>
        refine ⟨_, .removeUnsaid leaves connected identified (.inl ⟨removal, rfl⟩), ?_⟩
        simp only [removalRequest, removal]
        simp [left, same, unlock, finish, become, modify, set_modify, after, putting, moving,
          Subscription.unlocked]
      | ok m =>
        cases set : m.setCorrelation sys.nextCorrelation with
        | error fault =>
          refine ⟨_, .removeUnsaid leaves connected identified (.inr ⟨m, removal, set, rfl⟩), ?_⟩
          simp only [removalRequest, removal, fresh, set]
          simp [left, same, unlock, finish, become, modify, set_modify, after, putting, moving,
            Subscription.unlocked]
        | ok message =>
          refine ⟨_, .remove leaves connected identified removal set, ?_⟩
          simp only [removalRequest, removal, fresh, set]
          simp [left, same, request, become, after, putting, moving]

/-- Once the lock is held: what was wanted of it. -/
private theorem held_turn {goal : Goal} (acquires : Acquires a s sub goal stage)
    (same : base = { sys with subscriptions := sys.subscriptions.set s (sub.ownedBy a) }) :
    ∃ change, Turn sys a s sub stage change ∧ base.held a s sub goal = sys.after a change := by
  cases goal with
  | registration =>
    refine ⟨_, .learn acquires, ?_⟩
    simp [held, same, unlock, finish, become, modify, set_modify, after, putting, moving,
      Subscription.unlocked, Subscription.ownedBy]
  | unsubscribe token =>
    by_cases removed : sub.state = .removed
    · refine ⟨_, .tooLate acquires removed, ?_⟩
      simp [held, removed, same, unlock, finish, become, modify, set_modify, after, putting, moving,
        Subscription.unlocked, Subscription.ownedBy]
    · refine ⟨_, .beginRemoval acquires removed, ?_⟩
      simp [held, removed, same, become, after, putting, moving]
  | reinstall connection =>
    by_cases spared : sub.Spared connection
    · refine ⟨_, .skip acquires spared, ?_⟩
      have spare : base.held a s sub (.reinstall connection) = (base.unlock s).finish a .finished := if_pos spared
      rw [spare]
      simp [same, unlock, finish, become, modify, set_modify, after, putting, moving,
        Subscription.unlocked, Subscription.ownedBy]
    · have renew : base.held a s sub (.reinstall connection) =
          (base.setState s .reinstalling).drop a s sub (.reinstall connection) := if_neg spared
      rw [renew]
      unfold drop
      cases routed : sub.registration.correlation with
      | none =>
        refine install_turn (.unrouted acquires spared routed) ?_ rfl
        simp [same, setState, modify, set_modify, Subscription.inState]
      | some correlation =>
        refine ⟨_, .dropAgain acquires spared routed, ?_⟩
        simp [same, setState, setRegistration, become, modify, set_modify, after, putting, moving,
          Subscription.unrouted, Subscription.inState, Subscription.ownedBy]

private theorem turn_of_list {token : Option TokenId} (taken : sys.proceedOn a s sub (.list s token) = some next) :
    ∃ change, Turn sys a s sub (.list s token) change ∧ next = sys.after a change := by
  simp only [proceedOn] at taken
  cases current : sys.current with
  | none =>
    refine ⟨_, .unconnected token current, ?_⟩
    simp only [enlist, current, Option.some.injEq] at taken
    rw [← taken]
    simp [failInstall, become, after, moving, current]
  | some connection =>
    simp only [enlist, current, Option.some.injEq] at taken
    rw [← taken]
    simp only [install, freshCorrelation_eq]
    cases set : sub.request.copy.setCorrelation sys.nextCorrelation with
    | ok message =>
      refine ⟨_, .list token current set, ?_⟩
      simp only [nextCorrelation] at set ⊢
      simp only [set]
      simp [become, after, moving, current]
    | error fault =>
      refine ⟨_, .unready token current set, ?_⟩
      simp only [nextCorrelation] at set ⊢
      simp only [set]
      simp [failInstall, become, after, moving, current]

section
variable {purpose : Purpose} {connection : ConnectionId} {correlation : Int64} {request : RequestId} {late : Bool}

/-- Whoever gives up waiting for a registration leaves it to another to release it. -/
private theorem abandon_turn {fault : Fault} (interrupted : sys.Interrupted purpose.token request late fault) :
    ∃ change, Turn sys a s sub (.awaitRegistration s purpose connection correlation request late) change ∧
      sys.abandonInstall a s sub purpose connection correlation request fault = sys.after a change := by
  refine ⟨_, .abandon connection correlation interrupted, ?_⟩
  simp [abandonInstall, begin, become, after, moving]

/-- A registration that has been made is put on record. -/
private theorem register_turn (found : sys.subscription? s = some sub) {reply : Except Fault Message} {id : Uuid}
    (answered : sys.Answered purpose.token request reply) (read : reply.bind sub.listener.registration = .ok id) :
    ∃ change, Turn sys a s sub (.awaitRegistration s purpose connection correlation request late) change ∧
      (sys.setRegistration s ⟨some connection, some id, some correlation⟩).completeInstall a s connection purpose =
        sys.after a change := by
  cases purpose with
  | first token =>
    refine ⟨_, .registerFirst connection correlation late answered read, ?_⟩
    simp [completeInstall, setRegistration, setState, unlock, finish, become, modify, modify_found found,
      set_modify, after, putting, moving, Subscription.registered, Subscription.unlocked]
  | again =>
    refine ⟨_, .registerAgain connection correlation late answered read, ?_⟩
    simp [completeInstall, setRegistration, setState, unlock, finish, become, modify, count, notify,
      modify_found found, set_modify, after, putting, moving, Subscription.registered, Subscription.unlocked]

private theorem turn_of_awaitRegistration (found : sys.subscription? s = some sub)
    (taken : sys.proceedOn a s sub (.awaitRegistration s purpose connection correlation request late) = some next) :
    ∃ change, Turn sys a s sub (.awaitRegistration s purpose connection correlation request late) change ∧
      next = sys.after a change := by
  simp only [proceedOn] at taken
  by_cases fired : sys.isFired purpose.token = true
  · rw [if_pos fired] at taken
    cases taken
    exact abandon_turn (.inl ⟨fired, rfl⟩)
  · rw [if_neg fired] at taken
    have unfired : sys.isFired purpose.token = false := by simpa using fired
    cases replied : sys.reply? request with
    | none =>
      simp only [replied] at taken
      cases late with
      | false => simp at taken
      | true =>
        cases taken
        exact abandon_turn (.inr ⟨unfired, replied, rfl, rfl⟩)
    | some reply =>
      simp only [replied] at taken
      cases read : reply.bind sub.listener.registration with
      | error fault =>
        refine ⟨_, .refuse connection correlation late ⟨unfired, replied⟩ read, ?_⟩
        simp only [read, Option.some.injEq] at taken
        rw [← taken, become_eq]
      | ok id =>
        simp only [read, Option.some.injEq] at taken
        rw [← taken]
        exact register_turn found ⟨unfired, replied⟩ read
end

private theorem turn_of_removeRoute {purpose : Purpose} {correlation : Int64} {fault : Fault}
    (found : sys.subscription? s = some sub)
    (taken : sys.proceedOn a s sub (.removeRoute s purpose correlation fault) = some next) :
    ∃ change, Turn sys a s sub (.removeRoute s purpose correlation fault) change ∧ next = sys.after a change := by
  simp only [proceedOn, Option.some.injEq] at taken
  rw [← taken]
  cases purpose with
  | first token =>
    refine ⟨_, .undoFirst token correlation fault, ?_⟩
    simp [failInstall, eraseRoute, setRegistration, become, modify, modify_found found, after, putting,
      moving, routesBut, Subscription.unregistered]
  | again =>
    refine ⟨_, .undoAgain correlation fault, ?_⟩
    simp [failInstall, eraseRoute, setRegistration, setState, unlock, finish, become, modify, count, notify,
      modify_found found, set_modify, after, putting, moving, routesBut, Subscription.unlocked,
      Subscription.unregistered, Subscription.inState]

private theorem turn_of_lock {goal : Goal} (found : sys.subscription? s = some sub)
    (taken : sys.proceedOn a s sub (.lock s goal) = some next) :
    ∃ change, Turn sys a s sub (.lock s goal) change ∧ next = sys.after a change := by
  simp only [proceedOn] at taken
  cases holds : sub.holder with
  | none =>
    simp only [holds, Option.some.injEq] at taken
    rw [← taken]
    refine held_turn (.free holds) ?_
    simp [modify, modify_found found, Subscription.ownedBy]
  | some holder =>
    simp only [holds, Option.some.injEq] at taken
    refine ⟨_, .wait goal holds, ?_⟩
    rw [← taken]
    simp [become, modify, modify_found found, after, putting, moving]

private theorem turn_of_queue {goal : Goal} (found : sys.subscription? s = some sub)
    (taken : sys.proceedOn a s sub (.queue s goal) = some next) :
    ∃ change, Turn sys a s sub (.queue s goal) change ∧ next = sys.after a change := by
  simp only [proceedOn] at taken
  by_cases holds : sub.holder = some a
  · rw [if_pos holds, Option.some.injEq] at taken
    rw [← taken]
    refine held_turn (.given holds) ?_
    have own : sub.ownedBy a = sub := by simp [Subscription.ownedBy, ← holds]
    rw [own, set_found found]
  · rw [if_neg holds] at taken
    cases taken

private theorem turn_of_dropRoute {correlation : Int64} {goal : Goal} (found : sys.subscription? s = some sub)
    (taken : sys.proceedOn a s sub (.dropRoute s correlation goal) = some next) :
    ∃ change, Turn sys a s sub (.dropRoute s correlation goal) change ∧ next = sys.after a change := by
  simp only [proceedOn, Option.some.injEq] at taken
  rw [← taken]
  cases goal with
  | unsubscribe token => exact remove_turn found (.dropped correlation) rfl
  | reinstall connection =>
    refine install_turn (.dropped correlation) ?_ rfl
    simp [eraseRoute, routesBut, set_found found]
  | registration =>
    refine ⟨_, .learnDropped correlation, ?_⟩
    simp [dropped, eraseRoute, unlock, finish, become, modify, modify_found found, after, putting, moving,
      routesBut, Subscription.unlocked]

private theorem turn_of_unlist {token : Option TokenId} (found : sys.subscription? s = some sub)
    (taken : sys.proceedOn a s sub (.unlist s token) = some next) :
    ∃ change, Turn sys a s sub (.unlist s token) change ∧ next = sys.after a change := by
  simp only [proceedOn, Option.some.injEq] at taken
  rw [← taken]
  unfold drop
  cases routed : sub.registration.correlation with
  | none => exact remove_turn found (.unrouted routed) rfl
  | some correlation =>
    refine ⟨_, .unlist token routed, ?_⟩
    simp [delist, setRegistration, become, modify, modify_found found, after, putting, moving, tableBut,
      Subscription.unrouted]

private theorem turn_of_awaitRemoval {token : Option TokenId} {request : RequestId} {late : Bool}
    (found : sys.subscription? s = some sub)
    (taken : sys.proceedOn a s sub (.awaitRemoval s token request late) = some next) :
    ∃ change, Turn sys a s sub (.awaitRemoval s token request late) change ∧ next = sys.after a change := by
  -- whatever comes of the removal, the lock is given back
  have unlocked (outcome : Outcome) :
      (sys.unlock s).finish a outcome = sys.after a (sys.putting s sub.unlocked (.done outcome)) := by
    simp [unlock, finish, become, modify, modify_found found, after, putting, moving, Subscription.unlocked]
  simp only [proceedOn] at taken
  by_cases fired : sys.isFired token = true
  · rw [if_pos fired] at taken
    cases taken
    exact ⟨_, .interrupted (.inl ⟨fired, rfl⟩), unlocked _⟩
  · rw [if_neg fired] at taken
    have unfired : sys.isFired token = false := by simpa using fired
    cases replied : sys.reply? request with
    | none =>
      simp only [replied] at taken
      cases late with
      | false => simp at taken
      | true =>
        cases taken
        exact ⟨_, .interrupted (.inr ⟨unfired, replied, rfl, rfl⟩), unlocked _⟩
    | some reply =>
      simp only [replied, Option.some.injEq] at taken
      rw [← taken]
      exact ⟨_, .answered late ⟨unfired, replied⟩, unlocked _⟩

private theorem turn_of_deliver {message : Message} (taken : sys.proceedOn a s sub (.deliver s message) = some next) :
    ∃ change, Turn sys a s sub (.deliver s message) change ∧ next = sys.after a change := by
  simp only [proceedOn] at taken
  by_cases gone : s ∉ sys.table ∨ sub.state = .removed
  · refine ⟨_, .missed message gone, ?_⟩
    rw [if_pos gone] at taken
    cases taken
    exact finish_eq ..
  · rw [if_neg gone] at taken
    obtain ⟨listed, live⟩ := not_or.mp gone
    have listed := not_not.mp listed
    cases called : sub.listener.calls sys.surroundings message with
    | ok calls =>
      refine ⟨_, .deliver listed live called, ?_⟩
      simp only [count, called, Option.some.injEq] at taken
      rw [← taken]
      simp [become, after, moving]
    | error fault =>
      refine ⟨_, .undeliverable listed live called, ?_⟩
      simp only [count, called, Option.some.injEq] at taken
      rw [← taken]
      simp [finish, become, after, moving]

/-- A turn of an activity with a subscription is one of these. -/
theorem turn_of_proceedOn (found : sys.subscription? s = some sub) (about : stage.subscription? = some s)
    (taken : sys.proceedOn a s sub stage = some next) :
    ∃ change, Turn sys a s sub stage change ∧ next = sys.after a change := by
  cases stage <;> simp only [Stage.subscription?, Option.some.injEq, reduceCtorEq] at about <;> subst about
  case enter token =>
    simp only [proceedOn, Option.some.injEq] at taken
    refine ⟨_, .enter token, ?_⟩
    rw [← taken]
    simp [setState, become, modify, modify_found found, after, putting, moving, Subscription.inState]
  case list => exact turn_of_list taken
  case addRoute purpose connection correlation message =>
    simp only [proceedOn, Option.some.injEq] at taken
    refine ⟨_, .addRoute purpose connection correlation message, ?_⟩
    rw [← taken]
    simp [insertRoute, eraseRoute, request, become, after, moving, routesBut]
  case awaitRegistration => exact turn_of_awaitRegistration found taken
  case removeRoute => exact turn_of_removeRoute found taken
  case withdraw fault =>
    simp only [proceedOn, Option.some.injEq] at taken
    refine ⟨_, .withdraw fault, ?_⟩
    rw [← taken]
    simp [delist, setState, unlock, finish, become, modify, modify_found found, set_modify, after, putting,
      moving, tableBut, Subscription.unlocked, Subscription.inState]
  case lock => exact turn_of_lock found taken
  case queue => exact turn_of_queue found taken
  case dropRoute => exact turn_of_dropRoute found taken
  case unlist => exact turn_of_unlist found taken
  case awaitRemoval => exact turn_of_awaitRemoval found taken
  case deliver => exact turn_of_deliver taken
end

end System
end Datagrid
