import Datagrid.Proofs.Subscription.Responses

/-!
Reconnection: a subscription that is registered elsewhere than on the open connection is
going to be told. Either the transport has yet to report the open connection, or somebody
has yet to hear of it, or is about to make the registration again.
-/
namespace Datagrid

variable {σ κ : Type}

/-! ## Feeds -/

namespace Feed

variable {α : Type} {f rest : Feed α} {a b : α}

theorem closed_push : (f.push a).closed = f.closed := by
  unfold push
  split
  · rfl
  · split <;> rfl

theorem mem_push_self (open' : f.closed = false) : a ∈ (f.push a).items := by
  unfold push
  rw [if_neg (by simp [open'])]
  split <;> simp

theorem lagged_push (lags : f.lagged = true) : (f.push a).lagged = true := by
  unfold push
  split
  · exact lags
  · split
    · rfl
    · exact lags

/-- What is in a feed stays there, or the reader is told that something is lost. -/
theorem told_push (there : f.lagged = true ∨ b ∈ f.items) :
    (f.push a).lagged = true ∨ b ∈ (f.push a).items := by
  unfold push
  split
  · exact there
  · split
    · exact .inl rfl
    · rcases there with lost | here
      · exact .inl lost
      · exact .inr (List.mem_append_left _ here)

theorem take_item (took : f.take = .item a rest) :
    f.lagged = false ∧ f.items = a :: rest.items ∧ rest.closed = f.closed := by
  unfold take at took
  split at took
  · cases took
  · next fresh =>
    split at took
    · next items =>
      cases took
      exact ⟨by simpa using fresh, items, rfl⟩
    · split at took <;> cases took

theorem take_lagged (took : f.take = .lagged rest) : rest.items = f.items ∧ rest.closed = f.closed := by
  unfold take at took
  split at took
  · cases took
    exact ⟨rfl, rfl⟩
  · split at took
    · cases took
    · split at took <;> cases took

theorem take_closed (took : f.take = .closed) : f.lagged = false ∧ f.items = [] ∧ f.closed = true := by
  unfold take at took
  split at took
  · cases took
  · next fresh =>
    split at took
    · cases took
    · next items =>
      split at took
      · next closed => exact ⟨by simpa using fresh, items, closed⟩
      · cases took

end Feed

namespace System

variable {language : Message → Order} {replies : RequestId → Option (Except Fault Message)}
  {sys next : System σ κ} {a b : ActivityId} {s t : SubscriptionId} {sub now : Subscription σ κ}
  {stage : Stage σ κ} {change : Change σ κ} {c : ConnectionId}

/-! ## Registrations elsewhere -/

/-- A subscription has a registration on another connection, and a route there. -/
def Elsewhere (sys : System σ κ) (c : ConnectionId) (s : SubscriptionId) : Prop :=
  ∃ sub former k, sys.subscription? s = some sub ∧ sub.registration.connection = some former ∧
    sub.registration.correlation = some k ∧ former ≠ c

/-- A subscription has a registration on another connection, or has been granted one. -/
def Strays (sys : System σ κ) (replies : RequestId → Option (Except Fault Message)) (c : ConnectionId)
    (s : SubscriptionId) : Prop :=
  (∃ sub former k, sys.subscription? s = some sub ∧ sub.registration.connection = some former ∧
      sub.registration.correlation = some k ∧ former ≠ c) ∨
    ∃ a p former k r late answer, sys.stage? a = some (.awaitRegistration s p former k r late) ∧
      replies r = some (.ok answer) ∧ former ≠ c

/-- A turn leaves the registration of its subscription as it is, parts it from its route,
    or puts another in its place. -/
theorem Turn.registration (turn : Turn sys a s sub stage change) (found : sys.subscription? s = some sub) :
    ∃ now, change.subscriptions = sys.subscriptions.set s now ∧
      (now.registration = sub.registration ∨ now.registration.correlation = none ∨
        ∃ p c k r late reply id, stage = .awaitRegistration s p c k r late ∧ sys.reply? r = some reply ∧
          reply.bind sub.listener.registration = .ok id ∧ now.registration = ⟨some c, some id, some k⟩) := by
  have unchanged : sys.subscriptions = sys.subscriptions.set s sub := (set_found found).symm
  cases turn with
  | registerFirst c k late answered read =>
    exact ⟨_, rfl, .inr (.inr ⟨_, c, k, _, late, _, _, rfl, answered.2, read, rfl⟩)⟩
  | registerAgain c k late answered read =>
    exact ⟨_, rfl, .inr (.inr ⟨_, c, k, _, late, _, _, rfl, answered.2, read, rfl⟩)⟩
  | installAgain ready => cases ready <;> exact ⟨_, rfl, .inl rfl⟩
  | failAgain ready => cases ready <;> exact ⟨_, rfl, .inl rfl⟩
  | undoFirst => exact ⟨_, rfl, .inr (.inl rfl)⟩
  | undoAgain => exact ⟨_, rfl, .inr (.inl rfl)⟩
  | dropAgain => exact ⟨_, rfl, .inr (.inl rfl)⟩
  | unlist => exact ⟨_, rfl, .inr (.inl rfl)⟩
  | removeUnregistered => exact ⟨_, rfl, .inr (.inl rfl)⟩
  | removeUnsaid => exact ⟨_, rfl, .inr (.inl rfl)⟩
  | remove => exact ⟨_, rfl, .inr (.inl rfl)⟩
  | unconnected => exact ⟨sub, unchanged, .inl rfl⟩
  | list => exact ⟨sub, unchanged, .inl rfl⟩
  | unready => exact ⟨sub, unchanged, .inl rfl⟩
  | addRoute => exact ⟨sub, unchanged, .inl rfl⟩
  | abandon => exact ⟨sub, unchanged, .inl rfl⟩
  | refuse => exact ⟨sub, unchanged, .inl rfl⟩
  | missed => exact ⟨sub, unchanged, .inl rfl⟩
  | deliver => exact ⟨sub, unchanged, .inl rfl⟩
  | undeliverable => exact ⟨sub, unchanged, .inl rfl⟩
  | _ => exact ⟨_, rfl, .inl rfl⟩

/-- A registration was on record before, or an activity has waited for it. -/
theorem registered_of_step {move : Move σ κ} {id : Uuid} {k : Int64} (taken : sys.step? move = some next)
    (found : next.subscription? s = some now) (registered : now.registration = ⟨some c, some id, some k⟩) :
    (∃ sub, sys.subscription? s = some sub ∧ sub.registration = ⟨some c, some id, some k⟩) ∨
      ∃ a p r late, move = .proceed a ∧ sys.stage? a = some (.awaitRegistration s p c k r late) := by
  by_cases turns : ∃ a, move = .proceed a
  · obtain ⟨a, rfl⟩ := turns
    obtain ⟨stage, change, here, rfl, ⟨t, sub, about, found', turn⟩ | ⟨-, errand⟩⟩ := after_of_proceed taken
    · obtain ⟨now', put, kind⟩ := turn.registration found'
      by_cases same : s = t
      · subst same
        obtain rfl := Option.some.inj (found.symm.trans (subscription?_put put found'))
        rcases kind with still | parted | ⟨p, c', k', r, late, reply, id', rfl, -, -, own⟩
        · exact .inl ⟨sub, found', still ▸ registered⟩
        · simp [registered] at parted
        · cases own.symm.trans registered
          exact .inr ⟨a, p, r, late, rfl, here⟩
      · rw [subscription?_put_of_ne put same] at found
        exact .inl ⟨now, found, registered⟩
    · rcases errand.subscription?_cases found with before | ⟨-, listener, token, request, -, -, rfl⟩
      · exact .inl ⟨now, before, registered⟩
      · cases registered
  · have drifts := drifts_of_step taken fun a same => turns ⟨a, same⟩
    have found : sys.subscriptions[s]? = some now := drifts.subscriptions ▸ found
    exact .inl ⟨now, found, registered⟩

/-- A registration elsewhere was there before, or an activity has got the answer it waited for. -/
theorem elsewhere_of_step {move : Move σ κ} (taken : sys.step? move = some next) (elsewhere : next.Elsewhere c s) :
    sys.Elsewhere c s ∨ ∃ a p former k r late answer, sys.stage? a = some (.awaitRegistration s p former k r late) ∧
      sys.reply? r = some (.ok answer) ∧ former ≠ c := by
  obtain ⟨now, former, k, found', connected, routed, apart⟩ := elsewhere
  by_cases turns : ∃ a, move = .proceed a
  · obtain ⟨a, rfl⟩ := turns
    obtain ⟨stage, change, here, rfl, ⟨t, sub, about, found, turn⟩ | ⟨-, errand⟩⟩ := after_of_proceed taken
    · obtain ⟨now', put, kind⟩ := turn.registration found
      by_cases same : s = t
      · subst same
        obtain rfl := Option.some.inj (found'.symm.trans (subscription?_put put found))
        rcases kind with still | parted | ⟨p, c', k', r, late, reply, id, rfl, replied, read, registered⟩
        · exact .inl ⟨sub, former, k, found, still ▸ connected, still ▸ routed, apart⟩
        · simp [parted] at routed
        · obtain rfl : c' = former := by simpa [registered] using connected
          cases reply with
          | error fault => simp [Except.bind] at read
          | ok answer => exact .inr ⟨a, p, c', k', r, late, answer, here, replied, apart⟩
      · rw [subscription?_put_of_ne put same] at found'
        exact .inl ⟨now, former, k, found', connected, routed, apart⟩
    · rcases errand.subscription?_cases found' with found' | ⟨-, listener, token, request, -, -, rfl⟩
      · exact .inl ⟨now, former, k, found', connected, routed, apart⟩
      · simp [created, Registration.none] at connected
  · have drifts := drifts_of_step taken (by simpa using turns)
    have found' : sys.subscriptions[s]? = some now := drifts.subscriptions ▸ found'
    exact .inl ⟨now, former, k, found', connected, routed, apart⟩

/-- Nobody goes astray without having been granted a registration before. -/
theorem strays_of_step {move : Move σ κ} (attended : Attended language replies sys)
    (taken : sys.step? move = some next) (strays : next.Strays replies c s) : sys.Strays replies c s := by
  rcases strays with elsewhere | ⟨b, p, former, k, r, late, answer, there, granted, apart⟩
  · rcases elsewhere_of_step taken elsewhere with before | ⟨a, p, former, k, r, late, answer, here, replied, apart⟩
    · exact .inl before
    · exact .inr ⟨a, p, former, k, r, late, answer, here, attended.replied r _ replied, apart⟩
  · obtain ⟨-, late, before⟩ := attended.waits_of_step taken there granted
    exact .inr ⟨b, p, former, k, r, late, answer, before, granted, apart⟩

/-! ## Word of a connection -/

/-- Word of a connection is on its way to a subscription. -/
inductive Hears (sys : System σ κ) (c : ConnectionId) (s : SubscriptionId) : Prop where
  | listens {a : ActivityId} {feed : Feed ConnectionEvent} {child : Option ActivityId} :
      sys.stage? a = some (.listen feed child) → feed.lagged = true ∨ .connected c ∈ feed.items → Hears sys c s
  | reacts {a : ActivityId} : sys.stage? a = some (.react (.connected c)) → Hears sys c s
  | comes {a : ActivityId} : sys.stage? a = some (.lock s (.reinstall c)) → Hears sys c s
  | queues {a : ActivityId} : sys.stage? a = some (.queue s (.reinstall c)) → Hears sys c s

/-- A subscription whose registration has a correlation id counts. -/
theorem mem_table_of_routed {k : Int64} (sound : sys.Sound) (found : sys.subscription? s = some sub)
    (routed : sub.registration.correlation = some k) : s ∈ sys.table := by
  have kept := sound.kept s sub found
  have settled (settled : sub.Settled (s ∈ sys.table)) : s ∈ sys.table := by
    cases settled with
    | active _ listed => exact listed
    | failed _ listed => exact listed
    | removed _ _ none => simp [none, Registration.none] at routed
  cases holder : sub.holder with
  | none => exact settled (kept.free holder).2
  | some a =>
    obtain ⟨stage, here, engaged, holds⟩ := kept.holder a holder
    have minds : ∀ k, stage.minds? ≠ some (s, k) := by
      intro k' minds
      simp [(kept.unrouted here minds).2] at routed
    cases stage <;> simp only [Stage.engages?, Option.some.injEq, reduceCtorEq] at engaged <;> subst engaged
    case queue => exact settled holds
    case unlist => exact settled holds.1
    case enter => simp [holds.2.2, Registration.none] at routed
    case list => simp [holds.2.2, Registration.none] at routed
    case withdraw => exact holds.2.1
    case awaitRemoval => simp [holds.2.2, Registration.none] at routed
    all_goals exact absurd rfl (minds _)

/-- A subscription whose registration is being made counts. -/
theorem mem_table_of_installing {listed : Prop} {p : Purpose} (installing : sub.Installing listed p) : listed := by
  cases p with
  | first => exact installing.2.1
  | again => exact installing.2.1

/-- A subscription that goes astray counts. -/
theorem mem_table_of_strays (attended : Attended language replies sys) (strays : sys.Strays replies c s) :
    s ∈ sys.table := by
  rcases strays with ⟨sub, former, k, found, -, routed, -⟩ | ⟨b, p, former, k, r, late, answer, here, -⟩
  · exact mem_table_of_routed attended.sound found routed
  · obtain ⟨sub, found⟩ := subscription?_of_lt (attended.sound.about b _ s here rfl)
    obtain ⟨-, installing⟩ := (attended.sound.kept s sub found).has here rfl (by simp)
    exact mem_table_of_installing installing

private theorem Acquires.unique {goal goal' : Goal} (acquires : Acquires a s sub goal stage)
    (again : Acquires a s sub goal' stage) : goal = goal' := by
  cases acquires <;> cases again <;> rfl

/-- Whoever gets the lock of a subscription to register it on a connection leaves it without
    a route, unless it has its registration there. -/
theorem Turn.renews (turn : Turn sys a s sub stage change)
    (acquires : Acquires a s sub (.reinstall c) stage) :
    ∃ now, change.subscriptions = sys.subscriptions.set s now ∧
      ((now.registration = sub.registration ∧ sub.Spared c) ∨ now.registration.correlation = none) := by
  cases turn with
  | wait goal has =>
    cases acquires with
    | free none => simp [none] at has
  | learn again => cases acquires.unique again
  | tooLate again => cases acquires.unique again
  | beginRemoval again => cases acquires.unique again
  | skip again spared =>
    cases acquires.unique again
    exact ⟨_, rfl, .inl ⟨rfl, spared⟩⟩
  | dropAgain => exact ⟨_, rfl, .inr rfl⟩
  | installAgain ready =>
    cases ready with
    | unrouted _ _ unrouted => exact ⟨_, rfl, .inr unrouted⟩
    | dropped => cases acquires
  | failAgain ready =>
    cases ready with
    | unrouted _ _ unrouted => exact ⟨_, rfl, .inr unrouted⟩
    | dropped => cases acquires
  | removeUnregistered leaves => cases leaves <;> cases acquires
  | removeUnsaid leaves => cases leaves <;> cases acquires
  | remove leaves => cases leaves <;> cases acquires
  | _ => cases acquires

/-- Whoever has come for the lock of a subscription gets it, or queues for it. -/
private theorem Turn.comes {goal : Goal} (turn : Turn sys a s sub stage change)
    (comes : stage = .lock s goal ∨ stage = .queue s goal) :
    change.stage = .queue s goal ∨ Acquires a s sub goal stage := by
  have same {goal'} (acquires : Acquires a s sub goal' stage) : Acquires a s sub goal stage := by
    cases acquires with
    | free none =>
      rcases comes with ⟨⟨⟩⟩ | ⟨⟨⟩⟩
      exact .free none
    | given has =>
      rcases comes with ⟨⟨⟩⟩ | ⟨⟨⟩⟩
      exact .given has
  cases turn with
  | wait goal' =>
    rcases comes with ⟨⟨⟩⟩ | ⟨⟨⟩⟩
    exact .inl rfl
  | learn acquires => exact .inr (same acquires)
  | tooLate acquires => exact .inr (same acquires)
  | beginRemoval acquires => exact .inr (same acquires)
  | skip acquires => exact .inr (same acquires)
  | dropAgain acquires => exact .inr (same acquires)
  | installAgain ready =>
    cases ready with
    | unrouted acquires => exact .inr (same acquires)
    | dropped => simp at comes
  | failAgain ready =>
    cases ready with
    | unrouted acquires => exact .inr (same acquires)
    | dropped => simp at comes
  | removeUnregistered leaves => cases leaves <;> simp at comes
  | removeUnsaid leaves => cases leaves <;> simp at comes
  | remove leaves => cases leaves <;> simp at comes
  | _ => simp at comes

/-- Once an activity has the lock of a subscription to register it on a connection, it is
    not registered elsewhere any longer. -/
theorem not_elsewhere_of_turn (sound : sys.Sound) (here : sys.stage? a = some stage)
    (found : sys.subscription? s = some sub) (turn : Turn sys a s sub stage change)
    (acquires : Acquires a s sub (.reinstall c) stage) : ¬ (sys.after a change).Elsewhere c s := by
  obtain ⟨-, settled⟩ := acquires.before (sound.kept s sub found) here
  rintro ⟨now, former, k, found', connected, routed, apart⟩
  obtain ⟨now', put, kind⟩ := turn.renews acquires
  obtain rfl := Option.some.inj (found'.symm.trans (subscription?_put put found))
  rcases kind with ⟨same, spared⟩ | unrouted
  · rw [same] at connected
    rcases spared with removed | ⟨-, own⟩
    · cases settled with
      | active live => simp [live] at removed
      | failed broken => simp [broken] at removed
      | removed _ _ none => simp [none, Registration.none] at connected
    · exact apart (Option.some.inj (connected.symm.trans own))
  · simp [unrouted] at routed

/-- Once an activity has the lock of a subscription to register it on a connection, it is
    astray no longer. -/
private theorem not_strays_of_turn (attended : Attended language replies sys)
    (here : sys.stage? a = some stage) (found : sys.subscription? s = some sub)
    (turn : Turn sys a s sub stage change) (acquires : Acquires a s sub (.reinstall c) stage)
    (taken : sys.step? (.proceed a) = some (sys.after a change)) : ¬ (sys.after a change).Strays replies c s := by
  have kept := attended.sound.kept s sub found
  obtain ⟨had, -⟩ := acquires.before kept here
  rintro (elsewhere | ⟨b, p, former, k, r, late, answer, there, granted, -⟩)
  · exact not_elsewhere_of_turn attended.sound here found turn acquires elsewhere
  · obtain ⟨other, late, before⟩ := attended.waits_of_step taken there granted
    obtain ⟨has, -⟩ := kept.has before rfl (by simp)
    rcases had with own | none
    · cases Option.some.inj (has.symm.trans own)
      exact other rfl
    · simp [has] at none

/-- A listener goes on listening while it has no turn. -/
theorem listen_of_step {move : Move σ κ} {feed : Feed ConnectionEvent} {child : Option ActivityId}
    (taken : sys.step? move = some next) (idle : move ≠ .proceed a) (goesOn : move ≠ .closeEvents)
    (here : sys.stage? a = some (.listen feed child)) :
    ∃ later, next.stage? a = some (.listen later child) ∧
      (((∀ event, move ≠ .publish event) ∧ later = feed) ∨ ∃ event, move = .publish event ∧ later = feed.push event) := by
  by_cases turns : ∃ b, move = .proceed b
  · obtain ⟨b, rfl⟩ := turns
    obtain ⟨stage, change, -, rfl, -⟩ := after_of_proceed taken
    have other : a ≠ b := by
      rintro rfl
      exact idle rfl
    exact ⟨feed, stage?_after_of_some other here, .inl ⟨by simp, rfl⟩⟩
  · cases stirs_of_step taken (by simpa using turns) with
    | begins beginning => exact ⟨feed, stage?_begin_of_some _ here, .inl ⟨by simp, rfl⟩⟩
    | @shifts _ b stage later there drift deaf publishes _ =>
      have other : b ≠ a := by
        rintro rfl
        exact deaf feed child (Option.some.inj (there.symm.trans here))
      exact ⟨feed, by simpa [stage?, become, List.getElem?_set_ne other] using here, .inl ⟨publishes, rfl⟩⟩
    | publishes event =>
      refine ⟨feed.push event, ?_, .inr ⟨event, rfl, rfl⟩⟩
      unfold stage? at here ⊢
      simp [here, Stage.mapFeed]
    | closes => exact absurd rfl goesOn
    | _ => exact ⟨feed, here, .inl ⟨by simp, rfl⟩⟩

private theorem hears_of_begun {begun : Stage σ κ} (here : sys.stage? a = some stage)
    (started : begun ∈ change.started)
    (told : begun = .react (.connected c) ∨ begun = .lock s (.reinstall c)) : (sys.after a change).Hears c s := by
  obtain ⟨b, there⟩ := stage?_of_started here started
  rcases told with rfl | rfl
  · exact .reacts there
  · exact .comes there

/-- Word of a connection that is the one for new requests does not get lost before an activity
    has the lock of the subscription, to register it there. -/
theorem Hears.step {move : Move σ κ} (hears : sys.Hears c s) (listed : s ∈ sys.table)
    (taken : sys.step? move = some next) (goesOn : move ≠ .closeEvents) (current : sys.current = some c) :
    next.Hears c s ∨ ∃ a stage sub change, move = .proceed a ∧ sys.stage? a = some stage ∧
      sys.subscription? s = some sub ∧ next = sys.after a change ∧ Turn sys a s sub stage change ∧
      Acquires a s sub (.reinstall c) stage := by
  have still {a : ActivityId} {stage : Stage σ κ} (here : sys.stage? a = some stage) (other : move ≠ .proceed a)
      (fixed : ∀ later, stage.Drift later → later = stage) : next.stage? a = some stage := by
    obtain ⟨later, there, drift⟩ := drift_of_step taken other here
    rw [there, fixed later drift]
  have arrives {a : ActivityId} {stage : Stage σ κ} (here : sys.stage? a = some stage) (own : move = .proceed a)
      (comes : stage = .lock s (.reinstall c) ∨ stage = .queue s (.reinstall c)) :
      next.Hears c s ∨ ∃ a stage sub change, move = .proceed a ∧ sys.stage? a = some stage ∧
        sys.subscription? s = some sub ∧ next = sys.after a change ∧ Turn sys a s sub stage change ∧
        Acquires a s sub (.reinstall c) stage := by
    subst own
    obtain ⟨stage', change, here', rfl, kind⟩ := after_of_proceed taken
    obtain rfl := Option.some.inj (here.symm.trans here')
    rcases kind with ⟨t, sub, about, found, turn⟩ | ⟨alone, -⟩
    · obtain rfl : s = t := by rcases comes with rfl | rfl <;> exact Option.some.inj about
      rcases turn.comes comes with queues | acquires
      · exact .inl (.queues ((stage?_after_self here).trans (congrArg some queues)))
      · exact .inr ⟨a, stage, sub, change, rfl, here, found, rfl, turn, acquires⟩
    · rcases comes with rfl | rfl <;> cases alone
  cases hears with
  | @listens a feed child here told =>
    left
    by_cases own : move = .proceed a
    · subst own
      obtain ⟨stage, change, here', rfl, ⟨t, sub, about, -, -⟩ | ⟨-, errand⟩⟩ := after_of_proceed taken
      · obtain rfl := Option.some.inj (here.symm.trans here')
        cases about
      · obtain rfl := Option.some.inj (here.symm.trans here')
        have self : (sys.after a change).stage? a = some change.stage := stage?_after_self here
        cases errand with
        | heard => exact .listens self told
        | @hear _ rest event took =>
          obtain ⟨fresh, items, -⟩ := Feed.take_item took
          rcases told with lost | there
          · simp [fresh] at lost
          · rw [items] at there
            rcases List.mem_cons.mp there with rfl | later
            · exact hears_of_begun here (List.mem_singleton_self _) (.inl rfl)
            · exact .listens self (.inr later)
        | @catchUp _ rest connection took now =>
          obtain rfl : c = connection := Option.some.inj (current.symm.trans now)
          exact hears_of_begun here (List.mem_singleton_self _) (.inl rfl)
        | missOut took none => simp [none] at current
        | deaf took =>
          obtain ⟨fresh, items, -⟩ := Feed.take_closed took
          simp [fresh, items] at told
    · obtain ⟨later, there, kind⟩ := listen_of_step taken own goesOn here
      rcases kind with ⟨-, rfl⟩ | ⟨event, -, rfl⟩
      · exact .listens there told
      · exact .listens there (Feed.told_push told)
  | @reacts a here =>
    left
    by_cases own : move = .proceed a
    · subst own
      obtain ⟨stage, change, here', rfl, ⟨t, sub, about, -, -⟩ | ⟨-, errand⟩⟩ := after_of_proceed taken
      · obtain rfl := Option.some.inj (here.symm.trans here')
        cases about
      · obtain rfl := Option.some.inj (here.symm.trans here')
        cases errand with
        | connected =>
          exact hears_of_begun here (List.mem_map.mpr ⟨s, listed, rfl⟩) (.inr rfl)
    · exact .reacts (still here own (by rintro later ⟨⟩; rfl))
  | @comes a here =>
    by_cases own : move = .proceed a
    · exact arrives here own (.inl rfl)
    · exact .inl (.comes (still here own (by rintro later ⟨⟩; rfl)))
  | @queues a here =>
    by_cases own : move = .proceed a
    · exact arrives here own (.inr rfl)
    · exact .inl (.queues (still here own (by rintro later ⟨⟩; rfl)))

/-- Word of a connection that is the one for new requests reaches whoever is astray. -/
theorem hears_of_step {move : Move σ κ} (attended : Attended language replies sys)
    (taken : sys.step? move = some next) (goesOn : move ≠ .closeEvents) (current : sys.current = some c)
    (hears : sys.Hears c s) (strays : next.Strays replies c s) : next.Hears c s := by
  have listed := mem_table_of_strays attended (strays_of_step attended taken strays)
  rcases hears.step listed taken goesOn current with
    still | ⟨a, stage, sub, change, rfl, here, found, rfl, turn, acquires⟩
  · exact still
  · exact absurd strays (not_strays_of_turn attended here found turn acquires taken)

/-- A listener learns of an event: it finds the report, or finds that reports are lost and
    looks for the connection itself. -/
inductive Learns (sys : System σ κ) (feed rest : Feed ConnectionEvent) : ConnectionEvent → Prop where
  | item {event : ConnectionEvent} : feed.take = .item event rest → Learns sys feed rest event
  | lagged {c : ConnectionId} : feed.take = .lagged rest → sys.current = some c → Learns sys feed rest (.connected c)

/-- What comes of a listener in a step. -/
inductive Heeds (sys next : System σ κ) (a : ActivityId) (feed : Feed ConnectionEvent) (child : Option ActivityId) :
    Move σ κ → Feed ConnectionEvent → Option ActivityId → Prop where
  | still {move : Move σ κ} : (∀ event, move ≠ .publish event) → Heeds sys next a feed child move feed child
  | reported (event : ConnectionEvent) : Heeds sys next a feed child (.publish event) (feed.push event) child
  /-- Whoever reacted to the last event is done. -/
  | ready {b : ActivityId} : child = some b → sys.isDone b = true → Heeds sys next a feed child (.proceed a) feed none
  | learns {rest : Feed ConnectionEvent} {event : ConnectionEvent} {b : ActivityId} : child = none →
      sys.Learns feed rest event → sys.stage? b = none → next.stage? b = some (.react event) →
      Heeds sys next a feed child (.proceed a) rest (some b)
  /-- Reports are lost, and there is no connection. -/
  | misses {rest : Feed ConnectionEvent} : child = none → feed.take = .lagged rest → sys.current = none →
      Heeds sys next a feed child (.proceed a) rest none

theorem stage?_of_waiting {child : Stage σ κ} {wait : Option ActivityId → Stage σ κ}
    (here : sys.stage? a = some stage) : sys.stage? sys.activities.length = none ∧
      (sys.after a (sys.waiting child wait)).stage? sys.activities.length = some child := by
  have other : sys.activities.length ≠ a := Nat.ne_of_gt (lt_of_stage? here)
  refine ⟨List.getElem?_eq_none (Nat.le_refl _), ?_⟩
  rw [stage?_after_of_ne other, List.getElem?_append_right (Nat.le_refl _)]
  simp [waiting]

/-- Whoever listens to a transport that goes on keeps listening. -/
theorem heeds_of_step {move : Move σ κ} {feed : Feed ConnectionEvent} {child : Option ActivityId}
    (taken : sys.step? move = some next) (goesOn : move ≠ .closeEvents)
    (here : sys.stage? a = some (.listen feed child)) (open' : feed.closed = false) :
    ∃ later child', next.stage? a = some (.listen later child') ∧ later.closed = false ∧
      Heeds sys next a feed child move later child' := by
  by_cases own : move = .proceed a
  · subst own
    obtain ⟨stage, change, here', rfl, ⟨t, sub, about, -, -⟩ | ⟨-, errand⟩⟩ := after_of_proceed taken
    · obtain rfl := Option.some.inj (here.symm.trans here')
      cases about
    · obtain rfl := Option.some.inj (here.symm.trans here')
      have self : (sys.after a change).stage? a = some change.stage := stage?_after_self here
      cases errand with
      | heard _ finished => exact ⟨feed, _, self, open', .ready rfl finished⟩
      | @hear _ rest event took =>
        obtain ⟨-, -, same⟩ := Feed.take_item took
        obtain ⟨none, reacts⟩ := stage?_of_waiting here
        exact ⟨rest, _, self, same.trans open', .learns rfl (.item took) none reacts⟩
      | @catchUp _ rest connection took current =>
        obtain ⟨-, same⟩ := Feed.take_lagged took
        obtain ⟨none, reacts⟩ := stage?_of_waiting here
        exact ⟨rest, _, self, same.trans open', .learns rfl (.lagged took current) none reacts⟩
      | @missOut _ rest took current =>
        obtain ⟨-, same⟩ := Feed.take_lagged took
        exact ⟨rest, _, self, same.trans open', .misses rfl took current⟩
      | deaf took =>
        obtain ⟨-, -, closed⟩ := Feed.take_closed took
        simp [open'] at closed
  · obtain ⟨later, there, ⟨quiet, rfl⟩ | ⟨event, rfl, rfl⟩⟩ := listen_of_step taken own goesOn here
    · exact ⟨later, child, there, open', .still quiet⟩
    · exact ⟨_, child, there, Feed.closed_push.trans open', .reported event⟩

/-- Whoever listens to a transport that goes on hears all that it reports. -/
theorem listens_of_step {move : Move σ κ} {feed : Feed ConnectionEvent} {child : Option ActivityId}
    (taken : sys.step? move = some next) (goesOn : move ≠ .closeEvents)
    (here : sys.stage? a = some (.listen feed child)) (open' : feed.closed = false) :
    ∃ later child, next.stage? a = some (.listen later child) ∧ later.closed = false ∧
      ∀ event, move = .publish event → event ∈ later.items := by
  obtain ⟨later, child', there, still, heeds⟩ := heeds_of_step taken goesOn here open'
  refine ⟨later, child', there, still, ?_⟩
  rintro event rfl
  cases heeds with
  | still quiet => exact absurd rfl (quiet event)
  | reported => exact Feed.mem_push_self open'

/-- The connection for new requests is what it was, unless the transport says otherwise. -/
theorem current_of_step {move : Move σ κ} (taken : sys.step? move = some next) (kept : ∀ c, move ≠ .use c) :
    next.current = sys.current := by
  by_cases turns : ∃ a, move = .proceed a
  · obtain ⟨a, rfl⟩ := turns
    obtain ⟨stage, change, -, rfl, -⟩ := after_of_proceed taken
    rfl
  · cases stirs_of_step taken (by simpa using turns) with
    | uses c => exact absurd rfl (kept c)
    | _ => rfl

end System

namespace World

/-- The listener is there, and whoever is registered elsewhere than on the open connection
    is going to be told of it. -/
structure Alert (w : World σ κ) : Prop where
  listens : ∃ feed child, w.system.stage? 0 = some (.listen feed child) ∧ feed.closed = false
  announced : ∀ c, w.live = some c → .connected c ∈ w.outbox ∨ w.system.current = some c
  reminded : ∀ c, w.live = some c → ∀ s, w.system.Strays w.replies c s →
    .connected c ∈ w.outbox ∨ w.system.Hears c s

section
variable {language : Message → Order} {w : World σ κ} {system : System σ κ} {c : ConnectionId}

/-- A move that the transport reports nothing by keeps the world alert. -/
private theorem Alert.move {move : Move σ κ} (alert : w.Alert)
    (attended : System.Attended language w.replies w.system) (taken : w.system.step? move = some system)
    (goesOn : move ≠ .closeEvents) (uses : ∀ c, move = .use c → c = w.live) :
    Alert { w with system } := by
  have current (c) (live : w.live = some c) (now : w.system.current = some c) : system.current = some c := by
    by_cases used : ∃ c', move = .use c'
    · obtain ⟨c', rfl⟩ := used
      obtain rfl : _ = system := Option.some.inj taken
      exact (uses c' rfl).trans live
    · rw [System.current_of_step taken fun c' same => used ⟨c', same⟩]
      exact now
  obtain ⟨feed, child, here, open'⟩ := alert.listens
  obtain ⟨later, child', there, still, -⟩ := System.listens_of_step taken goesOn here open'
  refine ⟨⟨later, child', there, still⟩, ?_, ?_⟩
  · intro c live
    exact (alert.announced c live).imp_right (current c live)
  · intro c live s strays
    rcases alert.announced c live with waits | now
    · exact .inl waits
    · rcases alert.reminded c live s (System.strays_of_step attended taken strays) with waits | hears
      · exact .inl waits
      · exact .inr (System.hears_of_step attended taken goesOn now hears strays)

private theorem Alert.publish {event : ConnectionEvent} {rest : List ConnectionEvent} (alert : w.Alert)
    (attended : System.Attended language w.replies w.system) (outbox : w.outbox = event :: rest)
    (may : w.mayReport event = true) (taken : w.system.step? (.publish event) = some system) :
    Alert { w with system, outbox := rest } := by
  have current : system.current = w.system.current := System.current_of_step taken (by simp)
  obtain ⟨feed, child, here, open'⟩ := alert.listens
  obtain ⟨later, child', there, still, told⟩ := System.listens_of_step taken (by simp) here open'
  -- what is reported next is the open connection, or something else
  have waits {c} (live : w.live = some c) (waits : .connected c ∈ w.outbox) :
      (.connected c ∈ rest ∨ (event = .connected c ∧ w.system.current = some c)) := by
    rw [outbox] at waits
    rcases List.mem_cons.mp waits with rfl | later
    · exact .inr ⟨rfl, by simpa [mayReport, live] using may⟩
    · exact .inl later
  refine ⟨⟨later, child', there, still⟩, ?_, ?_⟩
  · intro c live
    show _ ∨ system.current = some c
    rw [current]
    rcases alert.announced c live with before | now
    · exact (waits live before).imp_right And.right
    · exact .inr now
  · intro c live s strays
    have hears (now : w.system.current = some c) (hears : w.system.Hears c s) : system.Hears c s :=
      System.hears_of_step attended taken (by simp) now hears strays
    have reported (same : event = .connected c) : system.Hears c s :=
      .listens there (.inr (told _ (congrArg _ same)))
    rcases alert.reminded c live s (System.strays_of_step attended taken strays) with before | heard
    · exact (waits live before).imp_right fun ⟨same, _⟩ => reported same
    · rcases alert.announced c live with before | now
      · exact (waits live before).imp_right fun ⟨same, _⟩ => reported same
      · exact .inr (hears now heard)

/-- A reply that is no registration, or one on the open connection, leads nobody astray. -/
private theorem Alert.reply {next : World σ κ} {q : RequestId} {c : ConnectionId} {m : Message}
    {reply : Except Fault Message} (alert : w.Alert) (attended : System.Attended language w.replies w.system)
    (there : w.system.requests[q]? = some ⟨c, m, .sent⟩)
    (here : ∀ read answer, language m = .register read → reply = .ok answer → w.live = some c)
    (system : next.system = w.system) (live : next.live = w.live) (outbox : next.outbox = w.outbox)
    (replies : next.replies = (w.reply q reply).replies) : Alert next := by
  refine ⟨system ▸ alert.listens, ?_, ?_⟩
  · rw [system, live, outbox]
    exact alert.announced
  · intro open' opened s strays
    rw [live] at opened
    rw [system, outbox]
    rw [system, replies] at strays
    refine alert.reminded open' opened s ?_
    rcases strays with known | ⟨a, p, former, k, r, late, answer, stage, granted, apart⟩
    · exact .inl known
    · refine .inr ⟨a, p, former, k, r, late, answer, stage, ?_, apart⟩
      by_cases own : r = q
      · subst own
        obtain ⟨sub, found⟩ := System.subscription?_of_lt (attended.sound.about a _ s stage rfl)
        obtain ⟨m', phase, there', order⟩ := attended.stages a _ stage sub found
        rw [there] at there'
        cases there'
        have opened' := here _ answer order (by simpa using granted)
        exact absurd (Option.some.inj (opened'.symm.trans opened)) apart
      · simpa [own] using granted

variable {limit : Timespan} {surroundings : σ} {capacity : Nat} {past : List (Step (World σ κ) (Act σ κ))}

theorem alert_of_past (run : Past (step? language) (start limit surroundings capacity) past w)
    (fluent : Fluent language past) : w.Alert := by
  induction run with
  | start => exact ⟨⟨.new capacity, none, rfl, rfl⟩, by simp [start], by simp [start]⟩
  | @step past now next act run taken ih =>
    have alert := ih fluent.before
    have attended := attended_of_past run fluent.before
    cases happens_of_step taken with
    | own mine moved =>
      refine alert.move attended moved ?_ ?_
      · rintro rfl
        simp [Move.isTransport] at mine
      · rintro c rfl
        simp [Move.isTransport] at mine
    | use moved =>
      refine alert.move attended moved (by simp) ?_
      rintro c ⟨⟩
      rfl
    | deliver _ moved => exact alert.move attended moved (by simp) (by simp)
    | publish outbox may moved => exact alert.publish attended outbox may moved
    | connect closed =>
      have waits : .connected now.connections ∈ now.connected.outbox := by simp
      refine ⟨alert.listens, ?_, ?_⟩
      · rintro c ⟨⟩
        exact .inl waits
      · rintro c ⟨⟩ s -
        exact .inl waits
    | disconnect => exact ⟨alert.listens, by simp, by simp⟩
    | register there live => exact alert.reply attended there (fun _ _ _ _ => live) rfl rfl rfl rfl
    | remove reply there live => exact alert.reply attended there (fun _ _ _ _ => live) rfl rfl rfl rfl
    | other reply there live => exact alert.reply attended there (fun _ _ _ _ => live) rfl rfl rfl rfl
    | refuse cause there dead => exact alert.reply attended there (by simp) rfl rfl rfl rfl

end
end World
end Datagrid
