import Datagrid.Proofs.Subscription.Turns

/-!
Errands: turns of activities that have no subscription. `System.Errand` lists all
that such an activity can do in one turn.
-/
namespace Datagrid
namespace System

variable {σ κ : Type}

/-- A subscription as it begins, with its lock taken. -/
def created (a : ActivityId) (listener : Listener σ κ) (request : Message) : Subscription σ κ where
  listener := listener
  request := request
  state := .created
  registration := .none
  holder := some a
  waiting := []

/-- The turn that begins another activity and waits for it. -/
def waiting (sys : System σ κ) (child : Stage σ κ) (wait : Option ActivityId → Stage σ κ) : Change σ κ :=
  { sys.moving (wait (some sys.activities.length)) with started := [child] }

/-- All that an activity without a subscription can do in one turn. -/
inductive Errand (sys : System σ κ) (a : ActivityId) : Stage σ κ → Change σ κ → Prop where
  | unbegun {listener : Listener σ κ} {token : Option TokenId} {fault : Fault} :
      (sys.isFired token = true ∧ fault = .cancelled) ∨
        (sys.isFired token = false ∧ listener.request = .error fault) →
      Errand sys a (.subscribe listener token) (sys.moving (.done (.subscribed (.error fault))))
  | create {listener : Listener σ κ} {token : Option TokenId} {request : Message} :
      sys.isFired token = false → listener.request = .ok request →
      Errand sys a (.subscribe listener token)
        { sys.moving (.enter sys.subscriptions.length token) with
          subscriptions := sys.subscriptions ++ [created a listener request] }
  | find {s : SubscriptionId} (goal : Goal) : s ∈ sys.table →
      Errand sys a (.lookup s goal) (sys.moving (.lock s goal))
  | miss {s : SubscriptionId} (goal : Goal) : s ∉ sys.table →
      Errand sys a (.lookup s goal) (sys.moving (.done goal.missing))
  | nothingToRelease {listener : Listener σ κ} (connection : ConnectionId) {request : RequestId}
      {reply : Except Fault Message} {fault : Fault} : sys.reply? request = some reply →
      reply.bind listener.registration = .error fault →
      Errand sys a (.release listener connection request) (sys.moving (.done .finished))
  | unreleased {listener : Listener σ κ} (connection : ConnectionId) {request : RequestId}
      {reply : Except Fault Message} {id : Uuid} {fault : Fault} {correlations : Nat} :
      sys.reply? request = some reply → reply.bind listener.registration = .ok id →
      (listener.removal id = .error fault ∧ correlations = sys.correlations) ∨
        (∃ m, listener.removal id = .ok m ∧ m.setCorrelation sys.nextCorrelation = .error fault ∧
          correlations = sys.correlations + 1) →
      Errand sys a (.release listener connection request)
        { sys.moving (.done .finished) with correlations := correlations }
  | release {listener : Listener σ κ} (connection : ConnectionId) {request : RequestId}
      {reply : Except Fault Message} {id : Uuid} {m message : Message} :
      sys.reply? request = some reply → reply.bind listener.registration = .ok id →
      listener.removal id = .ok m → m.setCorrelation sys.nextCorrelation = .ok message →
      Errand sys a (.release listener connection request)
        { sys.moving (.released sys.requests.length) with
          requests := sys.requests ++ [⟨connection, message, .sent⟩]
          correlations := sys.correlations + 1 }
  | released {request : RequestId} {reply : Except Fault Message} : sys.reply? request = some reply →
      Errand sys a (.released request) (sys.moving (.done .finished))
  | event (connection : ConnectionId) {message : Message} {correlation : Int64} :
      message.correlation = .ok correlation →
      Errand sys a (.event connection message)
        { sys.moving (.route connection correlation message) with counts := sys.counts.message }
  | malformed (connection : ConnectionId) {message : Message} {fault : Fault} :
      message.correlation = .error fault →
      Errand sys a (.event connection message)
        { sys.moving (.done .finished) with counts := sys.counts.message.error }
  | routed {connection : ConnectionId} {correlation : Int64} {s : SubscriptionId} (message : Message) :
      sys.route? correlation = some ⟨s, connection⟩ →
      Errand sys a (.route connection correlation message) (sys.moving (.deliver s message))
  | unrouted {connection : ConnectionId} {correlation : Int64} (message : Message) :
      (∀ s, sys.route? correlation ≠ some ⟨s, connection⟩) →
      Errand sys a (.route connection correlation message) (sys.moving (.done .finished))
  | called : Errand sys a (.call []) (sys.moving (.done .finished))
  | connected (connection : ConnectionId) :
      Errand sys a (.react (.connected connection))
        { sys.moving (.join (List.range' sys.activities.length sys.table.length)) with
          started := sys.table.map fun s => .lock s (.reinstall connection) }
  | disconnected (connection : ConnectionId) :
      Errand sys a (.react (.disconnected connection))
        { sys.moving (.done .finished) with
          routes := sys.routes.filter (·.2.connection != connection) }
  | join {children : List ActivityId} : children.all sys.isDone = true →
      Errand sys a (.join children) (sys.moving (.done .finished))
  | heard (feed : Feed ConnectionEvent) {child : ActivityId} : sys.isDone child = true →
      Errand sys a (.listen feed (some child)) (sys.moving (.listen feed none))
  | hear {feed rest : Feed ConnectionEvent} {event : ConnectionEvent} : feed.take = .item event rest →
      Errand sys a (.listen feed none) (sys.waiting (.react event) (.listen rest))
  | catchUp {feed rest : Feed ConnectionEvent} {connection : ConnectionId} : feed.take = .lagged rest →
      sys.current = some connection →
      Errand sys a (.listen feed none) (sys.waiting (.react (.connected connection)) (.listen rest))
  | missOut {feed rest : Feed ConnectionEvent} : feed.take = .lagged rest → sys.current = none →
      Errand sys a (.listen feed none) (sys.moving (.listen rest none))
  | deaf {feed : Feed ConnectionEvent} : feed.take = .closed →
      Errand sys a (.listen feed none) (sys.moving (.done .finished))
  | pumped (feed : Feed (ConnectionId × Message)) {child : ActivityId} : sys.isDone child = true →
      Errand sys a (.pump feed (some child)) (sys.moving (.pump feed none))
  | pump {feed rest : Feed (ConnectionId × Message)} {connection : ConnectionId} {message : Message} :
      feed.take = .item (connection, message) rest →
      Errand sys a (.pump feed none) (sys.waiting (.event connection message) (.pump rest))
  | pumpOn {feed rest : Feed (ConnectionId × Message)} : feed.take = .lagged rest →
      Errand sys a (.pump feed none) (sys.moving (.pump rest none))
  | dry {feed : Feed (ConnectionId × Message)} : feed.take = .closed →
      Errand sys a (.pump feed none) (sys.moving (.done .finished))
  | shutdown : Errand sys a .shutdown (sys.moving (.remove sys.table none))
  | removedAll (child : Option ActivityId) :
      Errand sys a (.remove [] child) (sys.moving (.done .finished))
  | removeNext (s : SubscriptionId) (rest : List SubscriptionId) :
      Errand sys a (.remove (s :: rest) none)
        (sys.waiting (.lookup s (.unsubscribe none)) (.remove (s :: rest)))
  | removedOne (s : SubscriptionId) (rest : List SubscriptionId) {child : ActivityId} :
      sys.isDone child = true →
      Errand sys a (.remove (s :: rest) (some child)) (sys.moving (.remove rest none))

/-! ## An errand is one of these -/

theorem beginAll_eq (sys : System σ κ) (stages : List (Stage σ κ)) :
    sys.beginAll stages =
      (List.range' sys.activities.length stages.length, { sys with activities := sys.activities ++ stages }) := by
  induction stages generalizing sys with
  | nil => simp [beginAll]
  | cons stage rest ih =>
    simp only [beginAll, begin, ih]
    simp [List.range'_succ]

theorem delegate_eq (sys : System σ κ) (a : ActivityId) (child : Stage σ κ) (wait : Option ActivityId → Stage σ κ) :
    sys.delegate a child wait = sys.after a (sys.waiting child wait) := by
  simp [delegate, begin, become, after, waiting, moving]

section
variable {sys next : System σ κ} {a : ActivityId} {stage : Stage σ κ}

private theorem errand_of_subscribe {listener : Listener σ κ} {token : Option TokenId}
    (taken : sys.proceedAlone a (.subscribe listener token) = some next) :
    ∃ change, Errand sys a (.subscribe listener token) change ∧ next = sys.after a change := by
  -- here and below `unfold`, for the equations that `simp` would use take long to make
  unfold proceedAlone at taken
  dsimp only at taken
  by_cases fired : sys.isFired token = true
  · refine ⟨_, .unbegun (.inl ⟨fired, rfl⟩), ?_⟩
    rw [if_pos fired] at taken
    cases taken
    exact finish_eq ..
  · rw [if_neg fired] at taken
    have unfired : sys.isFired token = false := by simpa using fired
    cases asked : listener.request with
    | error fault =>
      refine ⟨_, .unbegun (.inr ⟨unfired, asked⟩), ?_⟩
      simp only [asked, Option.some.injEq] at taken
      rw [← taken, finish_eq]
    | ok request =>
      refine ⟨_, .create unfired asked, ?_⟩
      simp only [asked, Option.some.injEq] at taken
      rw [← taken]
      simp [System.create, become, after, moving, created]

private theorem errand_of_lookup {s : SubscriptionId} {goal : Goal}
    (taken : sys.proceedAlone a (.lookup s goal) = some next) :
    ∃ change, Errand sys a (.lookup s goal) change ∧ next = sys.after a change := by
  unfold proceedAlone at taken
  simp only [Option.some.injEq] at taken
  by_cases listed : s ∈ sys.table
  · refine ⟨_, .find goal listed, ?_⟩
    rw [← taken, if_pos listed, become_eq]
  · refine ⟨_, .miss goal listed, ?_⟩
    rw [← taken, if_neg listed, finish_eq]

private theorem errand_of_release {listener : Listener σ κ} {connection : ConnectionId} {request : RequestId}
    (taken : sys.proceedAlone a (.release listener connection request) = some next) :
    ∃ change, Errand sys a (.release listener connection request) change ∧ next = sys.after a change := by
  unfold proceedAlone at taken
  dsimp only at taken
  cases replied : sys.reply? request with
  | none => simp [replied] at taken
  | some reply =>
    cases read : reply.bind listener.registration with
    | error fault =>
      refine ⟨_, .nothingToRelease connection replied read, ?_⟩
      simp only [replied, read, Option.some.injEq] at taken
      rw [← taken, finish_eq]
    | ok id =>
      simp only [replied, read] at taken
      cases removal : listener.removal id with
      | error fault =>
        refine ⟨_, .unreleased connection replied read (.inl ⟨removal, rfl⟩), ?_⟩
        simp only [removalRequest, removal, Option.some.injEq] at taken
        rw [← taken]
        simp [finish, become, after, moving]
      | ok m =>
        have fresh : sys.freshCorrelation =
            (sys.nextCorrelation, { sys with correlations := sys.correlations + 1 }) := rfl
        cases set : m.setCorrelation sys.nextCorrelation with
        | error fault =>
          refine ⟨_, .unreleased connection replied read (.inr ⟨m, removal, set, rfl⟩), ?_⟩
          simp only [removalRequest, removal, fresh, set, Option.some.injEq] at taken
          rw [← taken]
          simp [finish, become, after, moving]
        | ok message =>
          refine ⟨_, .release connection replied read removal set, ?_⟩
          simp only [removalRequest, removal, fresh, set, Option.some.injEq] at taken
          rw [← taken]
          simp [System.request, become, after, moving]

private theorem errand_of_event {connection : ConnectionId} {message : Message}
    (taken : sys.proceedAlone a (.event connection message) = some next) :
    ∃ change, Errand sys a (.event connection message) change ∧ next = sys.after a change := by
  unfold proceedAlone at taken
  dsimp only at taken
  cases read : message.correlation with
  | ok correlation =>
    refine ⟨_, .event connection read, ?_⟩
    simp only [read, Option.some.injEq] at taken
    rw [← taken]
    simp [count, become, after, moving]
  | error fault =>
    refine ⟨_, .malformed connection read, ?_⟩
    simp only [read, Option.some.injEq] at taken
    rw [← taken]
    simp [count, finish, become, after, moving]

private theorem errand_of_route {connection : ConnectionId} {correlation : Int64} {message : Message}
    (taken : sys.proceedAlone a (.route connection correlation message) = some next) :
    ∃ change, Errand sys a (.route connection correlation message) change ∧ next = sys.after a change := by
  unfold proceedAlone at taken
  dsimp only at taken
  cases found : sys.route? correlation with
  | none =>
    refine ⟨_, .unrouted message (by simp [found]), ?_⟩
    simp only [found, Option.some.injEq] at taken
    rw [← taken, finish_eq]
  | some route =>
    obtain ⟨s, on⟩ := route
    simp only [found, Option.some.injEq] at taken
    by_cases here : on = connection
    · subst here
      refine ⟨_, .routed message found, ?_⟩
      rw [← taken, if_pos rfl, become_eq]
    · refine ⟨_, .unrouted message ?_, ?_⟩
      · intro other
        simp [found, here]
      · rw [← taken, if_neg here, finish_eq]

private theorem errand_of_react {event : ConnectionEvent}
    (taken : sys.proceedAlone a (.react event) = some next) :
    ∃ change, Errand sys a (.react event) change ∧ next = sys.after a change := by
  cases event with
  | connected connection =>
    refine ⟨_, .connected connection, ?_⟩
    unfold proceedAlone at taken
    simp only [reinstallAll, beginAll_eq, Option.some.injEq] at taken
    rw [← taken]
    simp [become, after, moving]
  | disconnected connection =>
    refine ⟨_, .disconnected connection, ?_⟩
    unfold proceedAlone at taken
    simp only [Option.some.injEq] at taken
    rw [← taken]
    simp [eraseConnection, finish, become, after, moving]

private theorem errand_of_listen {feed : Feed ConnectionEvent} {child : Option ActivityId}
    (taken : sys.proceedAlone a (.listen feed child) = some next) :
    ∃ change, Errand sys a (.listen feed child) change ∧ next = sys.after a change := by
  cases child with
  | some child =>
    unfold proceedAlone at taken
    dsimp only at taken
    by_cases finished : sys.isDone child = true
    · refine ⟨_, .heard feed finished, ?_⟩
      rw [if_pos finished] at taken
      cases taken
      exact become_eq ..
    · rw [if_neg finished] at taken
      cases taken
  | none =>
    unfold proceedAlone at taken
    dsimp only at taken
    cases found : feed.take with
    | item event rest =>
      refine ⟨_, .hear found, ?_⟩
      simp only [found, Option.some.injEq] at taken
      rw [← taken, delegate_eq]
    | lagged rest =>
      simp only [found] at taken
      cases current : sys.current with
      | none =>
        refine ⟨_, .missOut found current, ?_⟩
        simp only [current, Option.some.injEq] at taken
        rw [← taken, become_eq]
      | some connection =>
        refine ⟨_, .catchUp found current, ?_⟩
        simp only [current, Option.some.injEq] at taken
        rw [← taken, delegate_eq]
    | empty => simp [found] at taken
    | closed =>
      refine ⟨_, .deaf found, ?_⟩
      simp only [found, Option.some.injEq] at taken
      rw [← taken, finish_eq]

private theorem errand_of_pump {feed : Feed (ConnectionId × Message)} {child : Option ActivityId}
    (taken : sys.proceedAlone a (.pump feed child) = some next) :
    ∃ change, Errand sys a (.pump feed child) change ∧ next = sys.after a change := by
  cases child with
  | some child =>
    unfold proceedAlone at taken
    dsimp only at taken
    by_cases finished : sys.isDone child = true
    · refine ⟨_, .pumped feed finished, ?_⟩
      rw [if_pos finished] at taken
      cases taken
      exact become_eq ..
    · rw [if_neg finished] at taken
      cases taken
  | none =>
    unfold proceedAlone at taken
    dsimp only at taken
    cases found : feed.take with
    | item event rest =>
      obtain ⟨connection, message⟩ := event
      refine ⟨_, .pump found, ?_⟩
      simp only [found, Option.some.injEq] at taken
      rw [← taken, delegate_eq]
    | lagged rest =>
      refine ⟨_, .pumpOn found, ?_⟩
      simp only [found, Option.some.injEq] at taken
      rw [← taken, become_eq]
    | empty => simp [found] at taken
    | closed =>
      refine ⟨_, .dry found, ?_⟩
      simp only [found, Option.some.injEq] at taken
      rw [← taken, finish_eq]

private theorem errand_of_remove {subscriptions : List SubscriptionId} {child : Option ActivityId}
    (taken : sys.proceedAlone a (.remove subscriptions child) = some next) :
    ∃ change, Errand sys a (.remove subscriptions child) change ∧ next = sys.after a change := by
  cases subscriptions with
  | nil =>
    refine ⟨_, .removedAll child, ?_⟩
    unfold proceedAlone at taken
    simp only [Option.some.injEq] at taken
    rw [← taken, finish_eq]
  | cons s rest =>
    cases child with
    | none =>
      refine ⟨_, .removeNext s rest, ?_⟩
      unfold proceedAlone at taken
      simp only [Option.some.injEq] at taken
      rw [← taken, delegate_eq]
    | some child =>
      unfold proceedAlone at taken
      dsimp only at taken
      by_cases finished : sys.isDone child = true
      · refine ⟨_, .removedOne s rest finished, ?_⟩
        rw [if_pos finished] at taken
        cases taken
        exact become_eq ..
      · rw [if_neg finished] at taken
        cases taken

/-- A turn of an activity without a subscription is one of these. -/
theorem errand_of_proceedAlone (alone : stage.subscription? = none)
    (taken : sys.proceedAlone a stage = some next) :
    ∃ change, Errand sys a stage change ∧ next = sys.after a change := by
  cases stage <;> simp only [Stage.subscription?, reduceCtorEq] at alone
  case subscribe => exact errand_of_subscribe taken
  case lookup => exact errand_of_lookup taken
  case release => exact errand_of_release taken
  case released request =>
    unfold proceedAlone at taken
    dsimp only at taken
    cases replied : sys.reply? request with
    | none => simp [replied] at taken
    | some reply =>
      refine ⟨_, .released replied, ?_⟩
      simp only [replied, Option.isSome_some, if_true, Option.some.injEq] at taken
      rw [← taken, finish_eq]
  case event => exact errand_of_event taken
  case route => exact errand_of_route taken
  case call calls =>
    cases calls with
    | nil =>
      refine ⟨_, .called, ?_⟩
      unfold proceedAlone at taken
      simp only [Option.some.injEq] at taken
      rw [← taken, finish_eq]
    | cons call rest => cases taken
  case react => exact errand_of_react taken
  case join children =>
    unfold proceedAlone at taken
    dsimp only at taken
    by_cases all : children.all sys.isDone = true
    · refine ⟨_, .join all, ?_⟩
      rw [if_pos all] at taken
      cases taken
      exact finish_eq ..
    · rw [if_neg all] at taken
      cases taken
  case listen => exact errand_of_listen taken
  case pump => exact errand_of_pump taken
  case shutdown =>
    refine ⟨_, .shutdown, ?_⟩
    unfold proceedAlone at taken
    simp only [Option.some.injEq] at taken
    rw [← taken, become_eq]
  case remove => exact errand_of_remove taken
  case done outcome => cases taken
end

end System
end Datagrid
