import Datagrid.Proofs.Subscription.Progress
import Datagrid.Proofs.Subscription.Records

/-!
Removal: a subscription is removed once, whoever asks for it and however often. The one who
gets its lock first takes it out of the table, drops its route and asks the member to take
the registration off that was on record; the others are told that there was nothing to
remove. By then nobody makes a registration any longer, and nobody will.
-/
namespace Datagrid

variable {σ κ : Type}

/-- The subscription that an activity at a stage makes a registration for. -/
def Stage.installs? : Stage σ κ → Option SubscriptionId
  | enter s _ | list s _ | addRoute s _ _ _ _ | awaitRegistration s _ _ _ _ _ | removeRoute s _ _ _ | withdraw s _
  | dropRoute s _ (.reinstall _) => some s
  | _ => none

/-- An activity has come to remove a subscription, and has not begun to. -/
inductive Stage.Comes (s : SubscriptionId) : Stage σ κ → Prop where
  | lookup (token : Option TokenId) : Comes s (.lookup s (.unsubscribe token))
  | lock (token : Option TokenId) : Comes s (.lock s (.unsubscribe token))
  | queue (token : Option TokenId) : Comes s (.queue s (.unsubscribe token))
  | unlist (token : Option TokenId) : Comes s (.unlist s token)
  | inVain : Comes s (.done (.unsubscribed (.ok false)))

/-- An activity has removed a subscription. -/
inductive Stage.Goes (s : SubscriptionId) : Stage σ κ → Prop where
  | awaitRemoval (token : Option TokenId) (r : RequestId) (late : Bool) : Goes s (.awaitRemoval s token r late)
  | done (result : Except Fault Bool) : Goes s (.done (.unsubscribed result))

section
variable {s : SubscriptionId} {sub : Subscription σ κ} {stage later : Stage σ κ} {listed : Prop}

theorem Stage.Drift.comes (drift : stage.Drift later) (comes : stage.Comes s) : later.Comes s := by
  cases comes <;> cases drift <;> constructor

theorem Stage.Drift.goes (drift : stage.Drift later) (goes : stage.Goes s) : later.Goes s := by
  cases goes <;> cases drift <;> constructor

theorem Stage.engages?_of_installs? (installs : stage.installs? = some s) :
    stage.engages? = some s ∧ ∀ goal, stage ≠ .queue s goal := by
  cases stage with
  | dropRoute s k goal => cases goal <;> simp_all [Stage.installs?, Stage.engages?]
  | _ => simp_all [Stage.installs?, Stage.engages?]

/-- Nobody makes or drops a registration of a subscription that is removed. -/
theorem Stage.Holds.live (holds : stage.Holds sub listed)
    (works : stage.installs? = some s ∨ (∃ k goal, stage = .dropRoute s k goal) ∨ ∃ token, stage = .unlist s token) :
    sub.state ≠ .removed := by
  have installing {p : Purpose} (holds : sub.Installing listed p) : sub.state ≠ .removed := by
    cases p with
    | first | again => simp [holds.1]
  cases stage with
  | enter | list => simp [holds.1]
  | addRoute | awaitRegistration | removeRoute => exact installing holds
  | withdraw => simp [holds.1]
  | dropRoute _ _ goal =>
    cases goal with
    | unsubscribe => simp [holds.1]
    | reinstall => exact installing (p := .again) holds
    | registration => exact holds.elim
  | unlist => exact holds.2
  | _ => simp [Stage.installs?] at works

/-- While a registration is made, the subscription has no route on record. -/
theorem Stage.Holds.unrouted (holds : stage.Holds sub listed) (installs : stage.installs? = some s) :
    sub.registration.correlation = none := by
  cases stage with
  | enter | list => simp [holds.2.2, Registration.none]
  | addRoute _ p | awaitRegistration _ p | removeRoute _ p => exact System.correlation_of_installing p holds
  | withdraw => simp [holds.2.2, Registration.none]
  | dropRoute _ _ goal =>
    cases goal with
    | reinstall => exact System.correlation_of_installing .again holds
    | _ => simp [Stage.installs?] at installs
  | _ => simp [Stage.installs?] at installs
end

namespace Step

/-- A step in which an activity begins. -/
def Begins (e : Step (System σ κ) (Move σ κ)) (a : ActivityId) (stage : Stage σ κ) : Prop :=
  e.before.stage? a = none ∧ e.after.stage? a = some stage

/-- A step in which an activity takes a subscription out of the table, to remove it. -/
def Removes (e : Step (System σ κ) (Move σ κ)) (a : ActivityId) (s : SubscriptionId) : Prop :=
  ∃ token, e.Turns a (.unlist s token)

/-- A step in which an activity sends a request. -/
def Sends (e : Step (System σ κ) (Move σ κ)) (a : ActivityId) (request : Request) : Prop :=
  e.move = .proceed a ∧ e.after.requests = e.before.requests ++ [request]

/-- A step in which an activity that has waited for a registration puts it on record. -/
def Records (e : Step (System σ κ) (Move σ κ)) (s : SubscriptionId) (c : ConnectionId) (id : Uuid) (k : Int64) : Prop :=
  (∃ a p r late, e.Turns a (.awaitRegistration s p c k r late)) ∧
    ∃ sub, e.after.subscription? s = some sub ∧ sub.registration = ⟨some c, some id, some k⟩

end Step

namespace System

/-- A subscription is gone: it is removed, does not count, and no event finds it. -/
structure Gone (sys : System σ κ) (s : SubscriptionId) : Prop where
  removed : ∃ sub, sys.subscription? s = some sub ∧ sub.state = .removed
  absent : s ∉ sys.table
  unrouted : ∀ k c, sys.route? k ≠ some ⟨s, c⟩

section
variable {sys next : System σ κ} {a b : ActivityId} {s : SubscriptionId} {sub now : Subscription σ κ}
  {stage later : Stage σ κ} {change : Change σ κ} {move : Move σ κ}

/-! ## A subscription stays removed -/

/-- A turn leaves a subscription removed that is. -/
theorem Turn.keeps_removed (turn : Turn sys a s sub stage change) (kept : sys.Kept s sub)
    (found : sys.subscription? s = some sub) (here : sys.stage? a = some stage) (removed : sub.state = .removed) :
    ∃ now, change.subscriptions = sys.subscriptions.set s now ∧ now.state = .removed := by
  have unchanged : sys.subscriptions = sys.subscriptions.set s sub := (set_found found).symm
  have idle (engaged : stage.engages? = some s) (past : ∀ goal, stage ≠ .queue s goal)
      (works : stage.installs? = some s ∨ (∃ k goal, stage = .dropRoute s k goal) ∨ ∃ token, stage = .unlist s token) :
      False := (kept.has here engaged past).2.live works removed
  cases turn with
  | enter | unconnected | list | unready | addRoute | abandon | refuse | registerFirst | registerAgain | undoFirst
  | undoAgain => exact (idle rfl (by simp) (.inl rfl)).elim
  | withdraw => exact ⟨_, rfl, rfl⟩
  | dropAgain _ unspared => exact absurd (.inl removed) unspared
  | installAgain ready =>
    cases ready with
    | unrouted _ unspared => exact absurd (.inl removed) unspared
    | dropped => exact (idle rfl (by simp) (.inl rfl)).elim
  | failAgain ready =>
    cases ready with
    | unrouted _ unspared => exact absurd (.inl removed) unspared
    | dropped => exact (idle rfl (by simp) (.inl rfl)).elim
  | unlist token => exact (idle rfl (by simp) (.inr (.inr ⟨token, rfl⟩))).elim
  | removeUnregistered | removeUnsaid | remove => exact ⟨_, rfl, rfl⟩
  | missed | deliver | undeliverable => exact ⟨sub, unchanged, removed⟩
  | _ => exact ⟨_, rfl, removed⟩

/-- A subscription that is removed stays so. -/
theorem removed_of_step (sound : sys.Sound) (taken : sys.step? move = some next)
    (removed : ∃ sub, sys.subscription? s = some sub ∧ sub.state = .removed) :
    ∃ sub, next.subscription? s = some sub ∧ sub.state = .removed := by
  obtain ⟨sub, found, removed⟩ := removed
  by_cases turns : ∃ a, move = .proceed a
  · obtain ⟨a, rfl⟩ := turns
    obtain ⟨stage, change, here, rfl, ⟨t, old, about, found', turn⟩ | ⟨-, errand⟩⟩ := after_of_proceed taken
    · by_cases same : s = t
      · subst same
        obtain rfl := Option.some.inj (found.symm.trans found')
        obtain ⟨now, put, removed⟩ := turn.keeps_removed (sound.kept s sub found) found here removed
        exact ⟨now, subscription?_put put found, removed⟩
      · obtain ⟨now, put, -⟩ := turn.handles (sound.kept t old found') found' here
        exact ⟨sub, (subscription?_put_of_ne put same).trans found, removed⟩
    · exact ⟨sub, errand.subscription?_after found, removed⟩
  · have drifts := drifts_of_step taken fun a same => turns ⟨a, same⟩
    have found : next.subscriptions[s]? = some sub := drifts.subscriptions ▸ found
    exact ⟨sub, found, removed⟩

/-- A subscription that is removed does not count, and has no registration. -/
theorem Kept.blank (kept : sys.Kept s sub) (removed : sub.state = .removed) :
    s ∉ sys.table ∧ sub.registration = .none := by
  have settled (settled : sub.Settled (s ∈ sys.table)) : s ∉ sys.table ∧ sub.registration = .none := by
    cases settled with
    | active live => simp [live] at removed
    | failed broken => simp [broken] at removed
    | removed _ absent none => exact ⟨absent, none⟩
  cases holder : sub.holder with
  | none => exact settled (kept.free holder).2
  | some a =>
    obtain ⟨stage, here, engaged, holds⟩ := kept.holder a holder
    cases stage <;> simp only [Stage.engages?, Option.some.injEq, reduceCtorEq] at engaged <;> subst engaged
    case queue => exact settled holds
    case awaitRemoval => exact holds.2
    case dropRoute k goal => exact absurd removed (holds.live (.inr (.inl ⟨k, goal, rfl⟩)))
    case unlist token => exact absurd removed (holds.live (.inr (.inr ⟨token, rfl⟩)))
    all_goals exact absurd removed (holds.live (.inl rfl))

/-- A subscription that is removed is gone. -/
theorem gone_of_removed (sound : sys.Sound) (minded : sys.Minded)
    (removed : ∃ sub, sys.subscription? s = some sub ∧ sub.state = .removed) : sys.Gone s := by
  obtain ⟨sub, found, removed⟩ := removed
  have kept := sound.kept s sub found
  obtain ⟨absent, -⟩ := kept.blank removed
  refine ⟨⟨sub, found, removed⟩, absent, ?_⟩
  intro k c routed
  obtain ⟨a, token, here⟩ := dropping_of_unlisted sound minded (mem_routes_of_route? routed) absent
  obtain ⟨-, holds⟩ := kept.has here rfl (by simp)
  exact holds.live (s := s) (.inr (.inl ⟨k, .unsubscribe token, rfl⟩)) removed

/-- A subscription that is gone stays gone, and is handed nothing. -/
theorem Gone.step (gone : sys.Gone s) (sound : sys.Sound) (minded : sys.Minded)
    (taken : sys.step? move = some next) :
    next.Gone s ∧ ∀ b m, ¬ Step.Hands ⟨sys, move, next⟩ b s m := by
  refine ⟨gone_of_removed (sound.step taken) (minded.step sound taken) (removed_of_step sound taken gone.removed), ?_⟩
  intro b m hands
  obtain ⟨sub, found, removed⟩ := gone.removed
  obtain ⟨rfl, here⟩ := hands.1
  obtain ⟨next', taken', handed, -⟩ := step_deliver here found
  obtain rfl := Option.some.inj (taken.symm.trans taken')
  exact gone.absent (handed.mp hands).1

/-! ## The one who removes -/

/-- What is asked of the member as a subscription is removed: the requests after it. -/
inductive Asking (sys : System σ κ) (sub : Subscription σ κ) : List Request → Prop where
  /-- There was no registration. -/
  | nothing : sub.registration.connection = none ∨ sub.registration.id = none → Asking sys sub sys.requests
  | unsaid {id : Uuid} : sub.registration.id = some id → sys.Unsaid sub.listener id → Asking sys sub sys.requests
  | asked {c : ConnectionId} {id : Uuid} {m message : Message} : sub.registration.connection = some c →
      sub.registration.id = some id → sub.listener.removal id = .ok m →
      m.setCorrelation sys.nextCorrelation = .ok message → Asking sys sub (sys.requests ++ [⟨c, message, .spawned⟩])

/-- An activity has taken a subscription out of the table, and is about to drop its route.
    The rest of its registration is what it was. -/
def Parts (sys : System σ κ) (a : ActivityId) (s : SubscriptionId) (sub : Subscription σ κ) : Prop :=
  ∃ k token now, sys.stage? a = some (.dropRoute s k (.unsubscribe token)) ∧ sys.subscription? s = some now ∧
    now.registration = { sub.registration with correlation := none } ∧ now.listener = sub.listener

/-- An activity has removed a subscription. -/
def Departs (sys : System σ κ) (a : ActivityId) (s : SubscriptionId) : Prop :=
  (∃ sub, sys.subscription? s = some sub ∧ sub.state = .removed) ∧ ∃ stage, sys.stage? a = some stage ∧ stage.Goes s

/-- An activity has come to remove a subscription, and has not begun to. -/
def Coming (sys : System σ κ) (a : ActivityId) (s : SubscriptionId) : Prop :=
  ∃ stage, sys.stage? a = some stage ∧ stage.Comes s

theorem Asking.congr {requests : List Request} (asking : sys.Asking now requests)
    (registration : now.registration = { sub.registration with correlation := none })
    (listener : now.listener = sub.listener) : sys.Asking sub requests := by
  have connection : now.registration.connection = sub.registration.connection := by rw [registration]
  have id : now.registration.id = sub.registration.id := by rw [registration]
  cases asking with
  | nothing none => exact .nothing (connection ▸ id ▸ none)
  | unsaid identified unsaid => exact .unsaid (id ▸ identified) (listener ▸ unsaid)
  | asked connected identified removal set =>
    exact .asked (connection ▸ connected) (id ▸ identified) (listener ▸ removal) set

/-- A subscription that has left the table and has no route is removed in the next turn. -/
theorem Turn.removal (turn : Turn sys a s sub stage change)
    (leaving : (∃ k token, stage = .dropRoute s k (.unsubscribe token)) ∨
      (∃ token, stage = .unlist s token) ∧ sub.registration.correlation = none) :
    ∃ now, change.subscriptions = sys.subscriptions.set s now ∧ now.state = .removed ∧ change.stage.Goes s ∧
      sys.Asking sub change.requests := by
  cases turn with
  | removeUnregistered _ none => exact ⟨_, rfl, rfl, .done _, .nothing none⟩
  | removeUnsaid _ _ identified failure => exact ⟨_, rfl, rfl, .done _, .unsaid identified (unsaid_of_failure failure)⟩
  | remove _ connected identified removal set =>
    exact ⟨_, rfl, rfl, .awaitRemoval .., .asked connected identified removal set⟩
  | unlist _ routed => simp [routed] at leaving
  | installAgain ready | failAgain ready => rcases ready with ⟨⟨⟩⟩ <;> simp at leaving
  | learn acquires | tooLate acquires | beginRemoval acquires | skip acquires | dropAgain acquires =>
    cases acquires <;> simp at leaving
  | _ => simp at leaving

/-- A subscription that has a route leaves the table before the route is dropped. -/
theorem Turn.unlists {token : Option TokenId} {k : Int64} (turn : Turn sys a s sub (.unlist s token) change)
    (routed : sub.registration.correlation = some k) :
    change.stage = .dropRoute s k (.unsubscribe token) ∧
      change.subscriptions = sys.subscriptions.set s sub.unrouted ∧ change.requests = sys.requests := by
  generalize same : Stage.unlist s token = stage at turn
  cases turn with
  | unlist token' routed' =>
    obtain rfl := Option.some.inj (routed.symm.trans routed')
    cases same
    exact ⟨rfl, rfl, rfl⟩
  | removeUnregistered leaves =>
    cases leaves with
    | unrouted none => simp [none] at routed
    | dropped => cases same
  | removeUnsaid leaves =>
    cases leaves with
    | unrouted none => simp [none] at routed
    | dropped => cases same
  | remove leaves =>
    cases leaves with
    | unrouted none => simp [none] at routed
    | dropped => cases same
  | installAgain ready | failAgain ready => rcases ready with ⟨⟨⟩⟩ <;> cases same
  | learn acquires | tooLate acquires | beginRemoval acquires | skip acquires | dropAgain acquires =>
    cases acquires <;> cases same
  | _ => cases same

/-- Whoever waits for the answer to a removal asks for nothing more. -/
theorem Turn.unlocks {token : Option TokenId} {r : RequestId} {late : Bool}
    (turn : Turn sys a s sub (.awaitRemoval s token r late) change) :
    ∃ result, change.stage = .done (.unsubscribed result) ∧ change.requests = sys.requests := by
  generalize same : Stage.awaitRemoval s token r late = stage at turn
  cases turn with
  | interrupted | answered => exact ⟨_, rfl, rfl⟩
  | removeUnregistered leaves | removeUnsaid leaves | remove leaves => cases leaves <;> cases same
  | installAgain ready | failAgain ready => rcases ready with ⟨⟨⟩⟩ <;> cases same
  | learn acquires | tooLate acquires | beginRemoval acquires | skip acquires | dropAgain acquires =>
    cases acquires <;> cases same
  | _ => cases same

/-- Whoever has come for the lock to remove a subscription queues for it, is too late, or begins. -/
theorem Turn.comes_on {token : Option TokenId} (turn : Turn sys a s sub stage change)
    (comes : stage = .lock s (.unsubscribe token) ∨ stage = .queue s (.unsubscribe token)) :
    change.stage.Comes s ∧ change.requests = sys.requests ∧
      ((∃ outcome, change.stage = .done outcome) → sub.state = .removed) := by
  have goal {goal} (acquires : Acquires a s sub goal stage) : goal = .unsubscribe token := by
    cases acquires <;> simpa using comes
  cases turn with
  | wait goal => simp_all [Stage.Comes.queue token]
  | tooLate _ removed => exact ⟨.inVain, rfl, fun _ => removed⟩
  | @beginRemoval _ token' => exact ⟨.unlist token', rfl, by simp⟩
  | learn acquires | skip acquires | dropAgain acquires => cases goal acquires
  | installAgain ready =>
    cases ready with
    | unrouted acquires => cases goal acquires
    | dropped => simp at comes
  | failAgain ready =>
    cases ready with
    | unrouted acquires => cases goal acquires
    | dropped => simp at comes
  | removeUnregistered leaves | removeUnsaid leaves | remove leaves => cases leaves <;> simp at comes
  | _ => simp at comes

/-- Whoever takes a subscription out of the table drops its route next, or has removed it. -/
theorem parts_of_step {token : Option TokenId} (sound : sys.Sound) (here : sys.stage? a = some (.unlist s token))
    (found : sys.subscription? s = some sub) (taken : sys.step? (.proceed a) = some next) :
    next.requests = sys.requests ∧
      ((∃ c id k, sub.registration = ⟨some c, some id, some k⟩) ∧ next.Parts a s sub ∨
        sub.registration = .none ∧ next.Departs a s) := by
  obtain ⟨stage, change, here', rfl, ⟨t, sub', about, found', turn⟩ | ⟨alone, -⟩⟩ := after_of_proceed taken
  · obtain rfl := Option.some.inj (here.symm.trans here')
    obtain rfl : s = t := Option.some.inj about
    obtain rfl := Option.some.inj (found.symm.trans found')
    have self : (sys.after a change).stage? a = some change.stage := stage?_after_self here
    obtain ⟨-, settled, live⟩ := (sound.kept s sub found).has here rfl (by simp)
    cases settled with
    | @active c id k _ _ _ registered =>
      have routed : sub.registration.correlation = some k := by rw [registered]
      obtain ⟨later, put, still⟩ := turn.unlists routed
      exact ⟨still, .inl ⟨⟨c, id, k, registered⟩, k, token, _, later ▸ self, subscription?_put put found, rfl, rfl⟩⟩
    | removed gone => exact absurd gone live
    | failed _ _ _ none =>
      have unrouted : sub.registration.correlation = .none := by rw [none, Registration.none]
      obtain ⟨now, put, removed, goes, asking⟩ := turn.removal (.inr ⟨⟨token, rfl⟩, unrouted⟩)
      refine ⟨?_, .inr ⟨none, ⟨now, subscription?_put put found, removed⟩, _, self, goes⟩⟩
      show change.requests = sys.requests
      generalize change.requests = requests at asking ⊢
      cases asking with
      | nothing => rfl
      | unsaid identified => simp [none, Registration.none] at identified
      | asked connected => simp [none, Registration.none] at connected
  · obtain rfl := Option.some.inj (here.symm.trans here')
    cases alone

/-- Whoever is about to drop the route of a subscription does so, and has removed it then. -/
theorem Parts.step (parts : sys.Parts a s sub) (sound : sys.Sound) (taken : sys.step? move = some next) :
    (move ≠ .proceed a ∧ next.Parts a s sub) ∨
      (move = .proceed a ∧ next.Departs a s ∧ sys.Asking sub next.requests) := by
  obtain ⟨k, token, now, here, found, registration, listener⟩ := parts
  by_cases own : move = .proceed a
  · subst own
    refine .inr ⟨rfl, ?_⟩
    obtain ⟨stage, change, here', rfl, ⟨t, sub', about, found', turn⟩ | ⟨alone, -⟩⟩ := after_of_proceed taken
    · obtain rfl := Option.some.inj (here.symm.trans here')
      obtain rfl : s = t := Option.some.inj about
      obtain rfl := Option.some.inj (found.symm.trans found')
      obtain ⟨later, put, removed, goes, asking⟩ := turn.removal (.inl ⟨k, token, rfl⟩)
      exact ⟨⟨⟨later, subscription?_put put found, removed⟩, _, stage?_after_self here, goes⟩,
        asking.congr registration listener⟩
    · obtain rfl := Option.some.inj (here.symm.trans here')
      cases alone
  · refine .inl ⟨own, ?_⟩
    obtain ⟨later, there, drift⟩ := drift_of_step taken own here
    cases drift
    obtain ⟨now', found', heard, -⟩ := listener_of_step taken found
    obtain ⟨old, found'', same⟩ := registration_of_step sound taken own here rfl (by simp) found'
    obtain rfl := Option.some.inj (found.symm.trans found'')
    exact ⟨k, token, now', there, found', same.trans registration, heard.trans listener⟩

/-- Whoever has removed a subscription waits for the answer at most, and asks for nothing more. -/
theorem Departs.step (departs : sys.Departs a s) (sound : sys.Sound) (taken : sys.step? move = some next) :
    next.Departs a s ∧ (move = .proceed a → next.requests = sys.requests) := by
  obtain ⟨removed, stage, here, goes⟩ := departs
  have removed := removed_of_step sound taken removed
  by_cases own : move = .proceed a
  · subst own
    obtain ⟨stage', change, here', rfl, ⟨t, sub', about, found', turn⟩ | ⟨-, errand⟩⟩ := after_of_proceed taken
    · obtain rfl := Option.some.inj (here.symm.trans here')
      have self : (sys.after a change).stage? a = some change.stage := stage?_after_self here
      cases goes with
      | awaitRemoval =>
        cases Option.some.inj about
        rcases turn.unlocks with ⟨result, later, still⟩
        exact ⟨⟨removed, _, self, later ▸ .done result⟩, fun _ => still⟩
      | done => cases about
    · obtain rfl := Option.some.inj (here.symm.trans here')
      cases goes <;> cases errand
  · obtain ⟨later, there, drift⟩ := drift_of_step taken own here
    exact ⟨⟨removed, later, there, drift.goes goes⟩, fun same => absurd same own⟩

/-- Whoever has come to remove a subscription asks for nothing, for as long as it has not
    taken it out of the table. -/
theorem Coming.step (coming : sys.Coming a s) (taken : sys.step? move = some next) :
    Step.Removes ⟨sys, move, next⟩ a s ∨ next.Coming a s ∧ (move = .proceed a → next.requests = sys.requests) := by
  obtain ⟨stage, here, comes⟩ := coming
  by_cases own : move = .proceed a
  · subst own
    obtain ⟨stage', change, here', rfl, kind⟩ := after_of_proceed taken
    obtain rfl := Option.some.inj (here.symm.trans here')
    have self : (sys.after a change).stage? a = some change.stage := stage?_after_self here
    rcases kind with ⟨t, sub', about, found', turn⟩ | ⟨-, errand⟩
    · cases comes with
      | lock token =>
        obtain rfl : s = t := Option.some.inj about
        obtain ⟨later, still, -⟩ := turn.comes_on (.inl rfl)
        exact .inr ⟨⟨_, self, later⟩, fun _ => still⟩
      | queue token =>
        obtain rfl : s = t := Option.some.inj about
        obtain ⟨later, still, -⟩ := turn.comes_on (.inr rfl)
        exact .inr ⟨⟨_, self, later⟩, fun _ => still⟩
      | unlist token => exact .inl ⟨token, rfl, here⟩
      | lookup | inVain => cases about
    · cases comes with
      | lookup token =>
        cases errand with
        | find => exact .inr ⟨⟨_, self, .lock token⟩, fun _ => rfl⟩
        | miss => exact .inr ⟨⟨_, self, .inVain⟩, fun _ => rfl⟩
      | _ => cases errand
  · obtain ⟨later, there, drift⟩ := drift_of_step taken own here
    exact .inr ⟨⟨later, there, drift.comes comes⟩, fun same => absurd same own⟩

/-- An activity has taken a subscription out of the table, to remove it. -/
def Leaving (sys : System σ κ) (a : ActivityId) (s : SubscriptionId) : Prop :=
  (∃ sub, sys.Parts a s sub) ∨ sys.Departs a s

theorem Leaving.step (leaving : sys.Leaving a s) (sound : sys.Sound) (taken : sys.step? move = some next) :
    next.Leaving a s := by
  rcases leaving with ⟨sub, parts⟩ | departs
  · rcases parts.step sound taken with ⟨-, parts⟩ | ⟨-, departs, -⟩
    · exact .inl ⟨sub, parts⟩
    · exact .inr departs
  · exact .inr (departs.step sound taken).1

/-- While a subscription is removed, nobody makes a registration for it, and nobody else takes it
    out of the table. -/
theorem Leaving.alone (leaving : sys.Leaving a s) (sound : sys.Sound) (there : sys.stage? b = some later) :
    later.installs? ≠ some s ∧ ∀ token, later ≠ .unlist s token := by
  have apart (works : later.installs? = some s ∨ ∃ token, later = .unlist s token) : False := by
    have engaged : later.engages? = some s ∧ ∀ goal, later ≠ .queue s goal := by
      rcases works with installs | ⟨token, rfl⟩
      · exact Stage.engages?_of_installs? installs
      · exact ⟨rfl, by simp⟩
    obtain ⟨sub, found⟩ := subscription?_of_lt (sound.about b _ s there (Stage.subscription?_of_engages? engaged.1))
    have kept := sound.kept s sub found
    obtain ⟨has, holds⟩ := kept.has there engaged.1 engaged.2
    rcases leaving with ⟨-, k, token, -, here, -⟩ | ⟨⟨sub', found', removed⟩, -⟩
    · obtain ⟨has', -⟩ := kept.has here rfl (by simp)
      obtain rfl := Option.some.inj (has.symm.trans has')
      obtain rfl := Option.some.inj (there.symm.trans here)
      simp [Stage.installs?] at works
    · obtain rfl := Option.some.inj (found.symm.trans found')
      exact holds.live (works.imp_right .inr) removed
  exact ⟨fun installs => apart (.inl installs), fun token same => apart (.inr ⟨token, same⟩)⟩

/-- While an activity is about to take a subscription out of the table, nobody makes a registration
    for it. -/
theorem not_installs_of_unlist {token : Option TokenId} (sound : sys.Sound)
    (here : sys.stage? a = some (.unlist s token)) (there : sys.stage? b = some later) : later.installs? ≠ some s := by
  intro installs
  obtain ⟨engaged, past⟩ := Stage.engages?_of_installs? installs
  obtain ⟨sub, found⟩ := subscription?_of_lt (sound.about a _ s here rfl)
  have kept := sound.kept s sub found
  obtain ⟨has, -⟩ := kept.has here rfl (by simp)
  obtain ⟨has', -⟩ := kept.has there engaged past
  obtain rfl := Option.some.inj (has.symm.trans has')
  obtain rfl := Option.some.inj (here.symm.trans there)
  cases installs

/-- Once a subscription is removed, nobody drops its route. -/
theorem Departs.not_parts (departs : sys.Departs a s) (sound : sys.Sound) : ¬ sys.Parts b s sub := by
  rintro ⟨k, token, now, here, found, -⟩
  obtain ⟨⟨sub', found', removed⟩, -⟩ := departs
  obtain rfl := Option.some.inj (found.symm.trans found')
  obtain ⟨-, holds⟩ := (sound.kept s now found).has here rfl (by simp)
  exact holds.live (s := s) (.inr (.inl ⟨k, .unsubscribe token, rfl⟩)) removed

/-- While a registration is on record, with its route, nobody makes another. -/
theorem not_installs_of_registered {k : Int64} (sound : sys.Sound) (found : sys.subscription? s = some sub)
    (routed : sub.registration.correlation = some k) (there : sys.stage? b = some later) :
    later.installs? ≠ some s := by
  intro installs
  obtain ⟨engaged, past⟩ := Stage.engages?_of_installs? installs
  obtain ⟨-, holds⟩ := (sound.kept s sub found).has there engaged past
  simp [holds.unrouted installs] at routed

end

/-! ## Through a run -/

/-- An activity is there to remove a subscription. -/
def Calls (past : List (Step (System σ κ) (Move σ κ))) (a : ActivityId) (s : SubscriptionId) : Prop :=
  ∃ e ∈ past, ∃ token, e.Begins a (.lookup s (.unsubscribe token))

/-- An activity asks for nothing. -/
def Silent (past : List (Step (System σ κ) (Move σ κ))) (a : ActivityId) : Prop :=
  ∀ e ∈ past, e.move = .proceed a → e.after.requests = e.before.requests

section
variable {limit : Timespan} {surroundings : σ} {past more earlier later : List (Step (System σ κ) (Move σ κ))}
  {start base sys : System σ κ} {e : Step (System σ κ) (Move σ κ)} {a b : ActivityId} {s : SubscriptionId}
  {sub : Subscription σ κ} {stage : Stage σ κ} {request : Request} {c : ConnectionId} {id : Uuid} {k : Int64}

theorem sound_since (goesOn : Past step? base more sys) (sound : base.Sound) : sys.Sound :=
  goesOn.invariant sound fun _ _ _ sound taken => sound.step taken

/-- Whoever was there is there. -/
theorem stage?_since (goesOn : Past step? base more sys) (here : base.stage? a = some stage) :
    ∃ later, sys.stage? a = some later := by
  induction goesOn with
  | start => exact ⟨stage, here⟩
  | step move _ taken ih =>
    obtain ⟨later, here⟩ := ih
    exact stage?_lasts taken here

theorem stage?_of_past (run : Past step? start past sys) (there : e ∈ past) (here : e.before.stage? a = some stage) :
    ∃ later, sys.stage? a = some later := by
  obtain ⟨earlier, later, split⟩ := List.append_of_mem there
  obtain ⟨stage', here'⟩ := stage?_lasts (run.upto split).2 here
  exact stage?_since (run.since split) here'

theorem departs_since (goesOn : Past step? base more sys) (sound : base.Sound) (departs : base.Departs a s) :
    sys.Departs a s := by
  induction goesOn with
  | start => exact departs
  | step move goesOn taken ih => exact (ih.step (sound_since goesOn sound) taken).1

/-- Whoever has removed a subscription, or is about to, does not come to anything else. -/
theorem leaving_since (goesOn : Past step? base more sys) (sound : base.Sound) (leaving : base.Leaving a s) :
    sys.Leaving a s := by
  induction goesOn with
  | start => exact leaving
  | step move goesOn taken ih => exact ih.step (sound_since goesOn sound) taken

theorem leaving_of_removes (run : Past step? (System.new limit surroundings) past sys)
    (split : past = earlier ++ e :: later) (removes : e.Removes a s) : e.after.Leaving a s := by
  obtain ⟨token, own, here⟩ := removes
  obtain ⟨upto, taken⟩ := run.upto split
  have sound := sound_of_past upto
  obtain ⟨sub, found⟩ := subscription?_of_lt (sound.about a _ s here rfl)
  rw [own] at taken
  rcases parts_of_step sound here found taken with ⟨-, ⟨-, parts⟩ | ⟨-, departs⟩⟩
  · exact .inl ⟨sub, parts⟩
  · exact .inr departs

theorem leaving_of_past (run : Past step? (System.new limit surroundings) past sys)
    (split : past = earlier ++ e :: later) (removes : e.Removes a s) : sys.Leaving a s := by
  obtain ⟨upto, taken⟩ := run.upto split
  exact leaving_since (run.since split) ((sound_of_past upto).step taken) (leaving_of_removes run split removes)

/-- A subscription that is gone is so from then on, and is handed nothing. -/
theorem gone_since (run : Past step? (System.new limit surroundings) past base) (goesOn : Past step? base more sys)
    (gone : base.Gone s) : sys.Gone s ∧ ∀ e ∈ more, ∀ b m, ¬ e.Hands b s m := by
  induction goesOn with
  | start => exact ⟨gone, by simp⟩
  | @step more now next move goesOn taken ih =>
    obtain ⟨gone, unheard⟩ := ih
    have whole := run.append goesOn
    obtain ⟨gone', unheard'⟩ := gone.step (sound_of_past whole) (minded_of_past whole) taken
    exact ⟨gone', forall_mem_concat.mpr ⟨unheard, unheard'⟩⟩

/-- Whoever has not begun has had no turn. -/
theorem idle_of_past (run : Past step? start past sys) (none : sys.stage? a = none) :
    ∀ e ∈ past, e.move ≠ .proceed a := by
  intro e there own
  obtain ⟨earlier, taken⟩ := run.mem there
  rw [own] at taken
  obtain ⟨stage, change, before, -⟩ := after_of_proceed taken.2
  obtain ⟨later, here⟩ := stage?_of_past run there before
  cases none.symm.trans here

/-- Whoever has come to remove a subscription has asked for nothing, or it has taken it out
    of the table. -/
theorem course_of_past (run : Past step? (System.new limit surroundings) past sys) (calls : Calls past a s) :
    (sys.Coming a s ∧ (∀ e ∈ past, ¬ e.Removes a s) ∧ Silent past a) ∨ ∃ e ∈ past, e.Removes a s := by
  induction run with
  | start =>
    obtain ⟨e, there, -⟩ := calls
    cases there
  | @step past now next move run taken ih =>
    obtain ⟨e, there, token, begins⟩ := calls
    rcases List.mem_append.mp there with old | new
    · rcases ih ⟨e, old, token, begins⟩ with ⟨coming, never, silent⟩ | ⟨e, old, removes⟩
      · by_cases removes : Step.Removes ⟨now, move, next⟩ a s
        · exact .inr ⟨_, List.mem_concat_self, removes⟩
        · obtain ⟨coming, still⟩ := (coming.step taken).resolve_left removes
          exact .inl ⟨coming, forall_mem_concat.mpr ⟨never, removes⟩, forall_mem_concat.mpr ⟨silent, still⟩⟩
      · exact .inr ⟨e, List.mem_append_left _ old, removes⟩
    · obtain rfl := List.mem_singleton.mp new
      obtain ⟨none, here⟩ := begins
      -- whoever has just begun has had no turn
      have other : move ≠ .proceed a := by
        rintro rfl
        obtain ⟨stage, change, before, -⟩ := after_of_proceed taken
        cases none.symm.trans before
      have idle : ∀ e ∈ past ++ [⟨now, move, next⟩], e.move ≠ .proceed a :=
        forall_mem_concat.mpr ⟨idle_of_past run none, other⟩
      refine .inl ⟨⟨_, here, .lookup token⟩, ?_, ?_⟩
      · rintro e there ⟨token, own, -⟩
        exact idle e there own
      · intro e there own
        exact absurd own (idle e there)

/-- Whoever has a turn has begun before it. -/
theorem calls_before (run : Past step? start past sys) (calls : Calls past a s)
    (split : past = earlier ++ e :: later) (here : e.before.stage? a = some stage) : Calls earlier a s := by
  obtain ⟨began, there, token, none, began'⟩ := calls
  rw [split] at there
  rcases List.mem_append.mp there with old | new
  · exact ⟨began, old, token, none, began'⟩
  · exfalso
    rcases List.mem_cons.mp new with rfl | new
    · cases none.symm.trans here
    · obtain ⟨stage', here'⟩ := stage?_lasts (run.upto split).2 here
      obtain ⟨earlier', later', split'⟩ := List.append_of_mem new
      obtain ⟨later, here⟩ := stage?_since ((run.since split).upto split').1 here'
      cases none.symm.trans here

/-- Whoever is about to drop the route of a subscription has asked the member to take the
    registration off once it has dropped it. -/
theorem asking_of_past (goesOn : Past step? base more sys) (sound : base.Sound) (parts : base.Parts a s sub) :
    sys.Parts a s sub ∨
      sys.Departs a s ∧ ∃ e ∈ more, e.move = .proceed a ∧ e.before.Parts a s sub ∧ e.before.Asking sub e.after.requests := by
  induction goesOn with
  | start => exact .inl parts
  | @step more now next move goesOn taken ih =>
    have sound := sound_since goesOn sound
    rcases ih with parts | ⟨departs, e, there, asks⟩
    · rcases parts.step sound taken with ⟨-, parts⟩ | ⟨rfl, departs, asking⟩
      · exact .inl parts
      · exact .inr ⟨departs, _, List.mem_concat_self, rfl, parts, asking⟩
    · exact .inr ⟨(departs.step sound taken).1, e, List.mem_append_left _ there, asks⟩

/-- A registration on record is that of the latest activity that has made one. -/
theorem recorded_of_past (run : Past step? (System.new limit surroundings) past sys)
    (found : sys.subscription? s = some sub) (registered : sub.registration = ⟨some c, some id, some k⟩) :
    ∃ first install rest, past = first ++ install :: rest ∧ install.Records s c id k ∧
      ∀ e ∈ rest, ∀ b stage, e.Turns b stage → stage.installs? ≠ some s := by
  induction run generalizing sub with
  | start => cases found
  | @step past now next move run taken ih =>
    rcases registered_of_step taken found registered with ⟨before, found', registered'⟩ | ⟨a, p, r, late, rfl, here⟩
    · obtain ⟨first, install, rest, split, records, none⟩ := ih found' registered'
      refine ⟨first, install, rest ++ [⟨now, move, next⟩], by simp [split], records, ?_⟩
      refine forall_mem_concat.mpr ⟨none, ?_⟩
      intro b stage turns
      exact not_installs_of_registered (sound_of_past run) found' (by rw [registered']) turns.2
    · exact ⟨past, _, [], rfl, ⟨⟨a, p, r, late, rfl, here⟩, sub, found, registered⟩, by simp⟩

/-- A subscription is removed once. -/
structure RemovedOnce (past : List (Step (System σ κ) (Move σ κ))) (sys : System σ κ) (s : SubscriptionId) : Prop where
  /-- One activity takes it out of the table, once. -/
  once : ∀ earlier removal later a, past = earlier ++ removal :: later → removal.Removes a s →
    ∀ e ∈ later, ∀ b, ¬ e.Removes b s
  /-- All others ask for nothing, and are told that there was nothing to remove. -/
  others : ∀ a, Calls past a s → (∀ e ∈ past, ¬ e.Removes a s) →
    Silent past a ∧ ∀ outcome, sys.outcome? a = some outcome → outcome = .unsubscribed (.ok false)
  /-- Whoever made a registration is done by then, and nobody makes one from then on. -/
  ordered : ∀ earlier removal later a, past = earlier ++ removal :: later → removal.Removes a s →
    ∀ e ∈ removal :: later, ∀ b stage, e.before.stage? b = some stage → stage.installs? ≠ some s
  /-- The registration that is on record then is that of the latest activity that has made one. -/
  recorded : ∀ earlier removal later a sub c id k, past = earlier ++ removal :: later → removal.Removes a s →
    removal.before.subscription? s = some sub → sub.registration = ⟨some c, some id, some k⟩ →
    ∃ first install rest, earlier = first ++ install :: rest ∧ install.Records s c id k ∧
      ∀ e ∈ rest, ∀ b stage, e.Turns b stage → stage.installs? ≠ some s
  /-- Nobody but the one who removes it sends a request, and that is to take this registration off. -/
  asked : ∀ earlier e later a request, past = earlier ++ e :: later → Calls past a s → e.Sends a request →
    ∃ removal ∈ earlier, removal.Removes a s ∧ ∃ sub c id k m message,
      removal.before.subscription? s = some sub ∧ sub.registration = ⟨some c, some id, some k⟩ ∧
      sub.listener.removal id = .ok m ∧ m.setCorrelation e.before.nextCorrelation = .ok message ∧
      request = ⟨c, message, .spawned⟩
  /-- At most one is sent. -/
  single : ∀ earlier e later a request, past = earlier ++ e :: later → Calls past a s → e.Sends a request →
    ∀ e' ∈ later, ∀ b request', Calls past b s → ¬ e'.Sends b request'
  /-- One is sent where there was a registration, before the one who removes it returns. -/
  sent : ∀ earlier removal later a sub c id k outcome, past = earlier ++ removal :: later → removal.Removes a s →
    removal.before.subscription? s = some sub → sub.registration = ⟨some c, some id, some k⟩ →
    (∀ k, ∃ m message, sub.listener.removal id = .ok m ∧ m.setCorrelation k = .ok message) →
    sys.outcome? a = some outcome → ∃ e ∈ later, ∃ request, e.Sends a request
  /-- Whatever it returns, the subscription is gone from then on. -/
  gone : ∀ a outcome, (∃ e ∈ past, e.Removes a s) → sys.outcome? a = some outcome →
    ∀ more later, Past step? sys more later → later.Gone s ∧ ∀ e ∈ more, ∀ b m, ¬ e.Hands b s m
  /-- Everybody who has come to remove it gets to return, whatever the transport does. -/
  returns : ∀ a, Calls past a s →
    ∃ later result, Advances sys later ∧ later.outcome? a = some (.unsubscribed result)

/-- Whoever sends a request has taken the subscription out of the table before. -/
private theorem asks_of_sends (run : Past step? (System.new limit surroundings) past sys)
    (split : past = earlier ++ e :: later) (calls : Calls past a s) (sends : e.Sends a request) :
    ∃ removal ∈ earlier, removal.Removes a s ∧ ∃ sub, removal.before.subscription? s = some sub ∧
      (∃ c id k, sub.registration = ⟨some c, some id, some k⟩) ∧ e.before.Parts a s sub ∧
      e.before.Asking sub (e.before.requests ++ [request]) := by
  obtain ⟨upto, taken⟩ := run.upto split
  obtain ⟨own, sent⟩ := sends
  have speaks : e.after.requests ≠ e.before.requests := by simp [sent]
  have sound := sound_of_past upto
  obtain ⟨stage, here⟩ : ∃ stage, e.before.stage? a = some stage := by
    rw [own] at taken
    obtain ⟨stage, -, here, -⟩ := after_of_proceed taken
    exact ⟨stage, here⟩
  rcases course_of_past upto (calls_before run calls split here) with ⟨coming, -, -⟩ | ⟨removal, there, removes⟩
  · exfalso
    rcases coming.step taken with ⟨token, -, here⟩ | ⟨-, silent⟩
    · obtain ⟨sub, found⟩ := subscription?_of_lt (sound.about a _ s here rfl)
      rw [own] at taken
      exact speaks (parts_of_step sound here found taken).1
    · exact speaks (silent own)
  · obtain ⟨first, rest, split'⟩ := List.append_of_mem there
    obtain ⟨upto', taken'⟩ := upto.upto split'
    have sound' := sound_of_past upto'
    have departed (departs : e.before.Departs a s) : False := speaks ((departs.step sound taken).2 own)
    obtain ⟨token, own', here'⟩ := removes
    obtain ⟨sub, found⟩ := subscription?_of_lt (sound'.about a _ s here' rfl)
    rw [own'] at taken'
    have sound'' := sound'.step taken'
    refine ⟨removal, there, ⟨token, own', here'⟩, sub, found, ?_⟩
    rcases parts_of_step sound' here' found taken' with ⟨-, ⟨routed, parts⟩ | ⟨-, departs⟩⟩
    · rcases asking_of_past (upto.since split') sound'' parts with parts | ⟨departs, -⟩
      · rcases parts.step sound taken with ⟨other, -⟩ | ⟨-, -, asking⟩
        · exact absurd own other
        · exact ⟨routed, parts, sent ▸ asking⟩
      · exact (departed departs).elim
    · exact (departed (departs_since (upto.since split') sound'' departs)).elim

/-- Once a subscription is out of the table to be removed, it is on its way out before every step. -/
private theorem leaving_before {removal : Step (System σ κ) (Move σ κ)}
    (run : Past step? (System.new limit surroundings) past sys) (split : past = earlier ++ removal :: later)
    (removes : removal.Removes a s) (there : e ∈ later) : e.before.Sound ∧ e.before.Leaving a s := by
  obtain ⟨upto, taken⟩ := run.upto split
  obtain ⟨between, rest, split'⟩ := List.append_of_mem there
  have goesOn := ((run.since split).upto split').1
  have sound := (sound_of_past upto).step taken
  exact ⟨sound_since goesOn sound, leaving_since goesOn sound (leaving_of_removes run split removes)⟩

/-- The request that is sent takes the registration off that was on record. -/
private theorem asked_of_sends (run : Past step? (System.new limit surroundings) past sys)
    (split : past = earlier ++ e :: later) (calls : Calls past a s) (sends : e.Sends a request) :
    ∃ removal ∈ earlier, removal.Removes a s ∧ ∃ sub c id k m message,
      removal.before.subscription? s = some sub ∧ sub.registration = ⟨some c, some id, some k⟩ ∧
      sub.listener.removal id = .ok m ∧ m.setCorrelation e.before.nextCorrelation = .ok message ∧
      request = ⟨c, message, .spawned⟩ := by
  obtain ⟨removal, there, removes, sub, found, ⟨c, id, k, registered⟩, -, asking⟩ := asks_of_sends run split calls sends
  refine ⟨removal, there, removes, sub, c, id, k, ?_⟩
  generalize same : e.before.requests ++ [request] = requests at asking
  cases asking with
  | nothing | unsaid => simp at same
  | @asked c' id' m message connected identified removal set =>
    rw [registered] at connected identified
    obtain rfl := Option.some.inj connected
    obtain rfl := Option.some.inj identified
    exact ⟨m, message, found, registered, removal, set, by simpa using same⟩

/-- Nobody sends a request after another has. -/
theorem single_of_sends {e' : Step (System σ κ) (Move σ κ)} {request' : Request}
    (run : Past step? (System.new limit surroundings) past sys)
    (split : past = earlier ++ e :: later) (calls : Calls past a s) (sends : e.Sends a request) (there : e' ∈ later)
    (calls' : Calls past b s) : ¬ e'.Sends b request' := by
  intro sends'
  obtain ⟨removal, -, -, sub, -, -, parts, -⟩ := asks_of_sends run split calls sends
  obtain ⟨upto, taken⟩ := run.upto split
  have sound := sound_of_past upto
  rcases parts.step sound taken with ⟨other, -⟩ | ⟨-, departs, -⟩
  · exact other sends.1
  · obtain ⟨between, rest, split'⟩ := List.append_of_mem there
    have whole : past = (earlier ++ e :: between) ++ e' :: rest := by simp [split, split']
    obtain ⟨removal', -, -, sub', -, -, parts', -⟩ := asks_of_sends run whole calls' sends'
    have goesOn := ((run.since split).upto split').1
    have sound := sound.step taken
    exact (departs_since goesOn sound departs).not_parts (sound_since goesOn sound) parts'

/-- Whoever has dropped the route of a subscription with a registration, to remove it, has asked the
    member to take the registration off. -/
theorem sends_of_dropped {removal : Step (System σ κ) (Move σ κ)}
    (run : Past step? (System.new limit surroundings) past sys) (split : past = earlier ++ removal :: later)
    (removes : removal.Removes a s) (found : removal.before.subscription? s = some sub)
    (registered : sub.registration = ⟨some c, some id, some k⟩)
    (encodes : ∀ k, ∃ m message, sub.listener.removal id = .ok m ∧ m.setCorrelation k = .ok message)
    (dropped : ∀ k token, sys.stage? a ≠ some (.dropRoute s k (.unsubscribe token))) :
    ∃ e ∈ later, ∃ m message, sub.listener.removal id = .ok m ∧
      m.setCorrelation e.before.nextCorrelation = .ok message ∧ e.Sends a ⟨c, message, .spawned⟩ := by
  obtain ⟨token, own, here⟩ := removes
  obtain ⟨upto, taken⟩ := run.upto split
  have sound := sound_of_past upto
  have sound' := sound.step taken
  rw [own] at taken
  rcases parts_of_step sound here found taken with ⟨-, ⟨-, parts⟩ | ⟨none, -⟩⟩
  · rcases asking_of_past (run.since split) sound' parts with ⟨k, token, now, here, -⟩ | ⟨-, e, there, own, -, asking⟩
    · exact absurd here (dropped k token)
    · generalize same : e.after.requests = requests at asking
      cases asking with
      | nothing none => simp [registered] at none
      | unsaid identified unsaid =>
        rw [registered] at identified
        obtain rfl := Option.some.inj identified
        obtain ⟨m, message, removal, set⟩ := encodes e.before.nextCorrelation
        exact absurd set (unsaid m message removal)
      | @asked c' id' m message connected identified removal set =>
        rw [registered] at connected identified
        obtain rfl := Option.some.inj connected
        obtain rfl := Option.some.inj identified
        exact ⟨e, there, m, message, removal, set, own, same⟩
  · cases registered.symm.trans none

/-- Whoever has removed a subscription with a registration has sent a request. -/
private theorem sends_of_done {removal : Step (System σ κ) (Move σ κ)} {outcome : Outcome}
    (run : Past step? (System.new limit surroundings) past sys) (split : past = earlier ++ removal :: later)
    (removes : removal.Removes a s) (found : removal.before.subscription? s = some sub)
    (registered : sub.registration = ⟨some c, some id, some k⟩)
    (encodes : ∀ k, ∃ m message, sub.listener.removal id = .ok m ∧ m.setCorrelation k = .ok message)
    (done : sys.stage? a = some (.done outcome)) : ∃ e ∈ later, ∃ request, e.Sends a request := by
  obtain ⟨e, there, m, message, -, -, sends⟩ :=
    sends_of_dropped run split removes found registered encodes (by simp [done])
  exact ⟨e, there, _, sends⟩

/-- Once whoever removes a subscription returns, it is gone. -/
private theorem gone_of_done {outcome : Outcome} (run : Past step? (System.new limit surroundings) past sys)
    (there : e ∈ past) (removes : e.Removes a s) (done : sys.stage? a = some (.done outcome)) : sys.Gone s := by
  obtain ⟨earlier, rest, split⟩ := List.append_of_mem there
  rcases leaving_of_past run split removes with ⟨sub, k, token, now, here, -⟩ | ⟨removed, -⟩
  · cases here.symm.trans done
  · exact gone_of_removed (sound_of_past run) (minded_of_past run) removed

/-- Whoever has come to remove a subscription gets to its end. -/
private theorem served_of_calls (run : Past step? (System.new limit surroundings) past sys) (calls : Calls past a s) :
    ∃ later outcome, Advances sys later ∧ later.stage? a = some (.done outcome) := by
  have sound := sound_of_past run
  rcases course_of_past run calls with ⟨⟨stage, here, comes⟩, -, -⟩ | ⟨e, there, removes⟩
  · cases comes with
    | lookup => exact served_of_lookup sound (.inl here)
    | lock => exact served_of_lookup sound (.inr here)
    | queue | unlist => exact served_of_engaged sound here rfl
    | inVain => exact ⟨sys, _, .refl sys, here⟩
  · obtain ⟨earlier, rest, split⟩ := List.append_of_mem there
    rcases leaving_of_past run split removes with ⟨sub, k, token, now, here, -⟩ | ⟨-, stage, here, goes⟩
    · exact served_of_engaged sound here rfl
    · cases goes with
      | awaitRemoval => exact served_of_engaged sound here rfl
      | done => exact ⟨sys, _, .refl sys, here⟩

/-- Whoever has come to remove a subscription comes to nothing else. -/
private theorem unsubscribed_of_done {outcome : Outcome} (run : Past step? (System.new limit surroundings) past sys)
    (calls : Calls past a s) (done : sys.stage? a = some (.done outcome)) :
    ∃ result, outcome = .unsubscribed result := by
  rcases course_of_past run calls with ⟨⟨stage, here, comes⟩, -, -⟩ | ⟨e, there, removes⟩
  · obtain rfl := Option.some.inj (here.symm.trans done)
    cases comes
    exact ⟨_, rfl⟩
  · obtain ⟨earlier, rest, split⟩ := List.append_of_mem there
    rcases leaving_of_past run split removes with ⟨sub, k, token, now, here, -⟩ | ⟨-, stage, here, goes⟩
    · cases here.symm.trans done
    · obtain rfl := Option.some.inj (here.symm.trans done)
      cases goes
      exact ⟨_, rfl⟩

/-- A subscription is removed once, whoever asks for it and however often. -/
theorem removed_once (run : Past step? (System.new limit surroundings) past sys) (s : SubscriptionId) :
    RemovedOnce past sys s := by
  refine ⟨?_, ?_, ?_, ?_, ?_, ?_, ?_, ?_, ?_⟩
  · rintro earlier removal later a split removes e there b ⟨token, -, here⟩
    obtain ⟨sound, leaving⟩ := leaving_before run split removes there
    exact (leaving.alone sound here).2 token rfl
  · intro a calls never
    rcases course_of_past run calls with ⟨⟨stage, here, comes⟩, -, silent⟩ | ⟨e, there, removes⟩
    · refine ⟨silent, ?_⟩
      intro outcome reached
      obtain rfl := Option.some.inj (here.symm.trans (outcome?_eq_some.mp reached))
      cases comes
      rfl
    · exact absurd removes (never e there)
  · rintro earlier removal later a split removes e there b stage here
    rcases List.mem_cons.mp there with rfl | there
    · obtain ⟨token, -, here'⟩ := removes
      exact not_installs_of_unlist (sound_of_past (run.upto split).1) here' here
    · obtain ⟨sound, leaving⟩ := leaving_before run split removes there
      exact (leaving.alone sound here).1
  · intro earlier removal later a sub c id k split _ found registered
    exact recorded_of_past (run.upto split).1 found registered
  · intro earlier e later a request split calls sends
    exact asked_of_sends run split calls sends
  · intro earlier e later a request split calls sends e' there b request' calls'
    exact single_of_sends run split calls sends there calls'
  · intro earlier removal later a sub c id k outcome split removes found registered encodes reached
    exact sends_of_done run split removes found registered encodes (outcome?_eq_some.mp reached)
  · rintro a outcome ⟨e, there, removes⟩ reached more later goesOn
    exact gone_since run goesOn (gone_of_done run there removes (outcome?_eq_some.mp reached))
  · intro a calls
    obtain ⟨later, outcome, advances, done⟩ := served_of_calls run calls
    obtain ⟨more, goesOn⟩ := advances.past
    obtain ⟨e, there, begins⟩ := calls
    obtain ⟨result, rfl⟩ := unsubscribed_of_done (run.append goesOn) ⟨e, List.mem_append_left _ there, begins⟩ done
    exact ⟨later, result, advances, outcome?_eq_some.mpr done⟩

end

/-- Two come to remove a subscription while it is registered again: one is asked to, the other
    shuts down. -/
def removals : List (Move Unit Unit) :=
  [.use (some 0), .begin (.subscribe tally none), .proceed 0, .proceed 0, .proceed 0, .proceed 0, .send 0,
    .answer 0 (.ok tallied), .proceed 0, .begin (.react (.connected 1)), .proceed 1, .proceed 2, .proceed 2, .proceed 2,
    .begin (.unsubscribe 0 none), .begin .shutdown, .proceed 3, .proceed 3, .proceed 4, .proceed 4, .proceed 5,
    .proceed 5, .send 1, .answer 1 (.ok tallied), .proceed 2, .proceed 3, .proceed 3, .proceed 3, .send 2,
    .answer 2 (.ok tallied), .proceed 3, .proceed 5]

/-- Whether an activity was told that there was something to remove, or that there was not. -/
def told (sys : System Unit Unit) (a : ActivityId) (removed : Bool) : Bool :=
  match sys.outcome? a with
  | some (.unsubscribed (.ok result)) => result == removed
  | _ => false

theorem outcome?_of_told {sys : System Unit Unit} {a : ActivityId} {removed : Bool} (told : told sys a removed = true) :
    sys.outcome? a = some (.unsubscribed (.ok removed)) := by
  unfold System.told at told
  split at told
  · next result here => rw [here, eq_of_beq told]
  · cases told

theorem second_removal_finds_nothing : ∃ (past : _) (sys : System Unit Unit),
    Past step? (System.new (.ofSeconds 60) ()) past sys ∧ sys.outcome? 3 = some (.unsubscribed (.ok true)) ∧
      sys.outcome? 5 = some (.unsubscribed (.ok false)) ∧ sys.requests.map (·.connection) = [0, 1, 1] ∧
      RemovedOnce past sys 0 := by
  have done : (removals.foldlM step? (System.new (.ofSeconds 60) ())).any fun sys =>
      told sys 3 true && told sys 5 false && sys.requests.map (·.connection) == [0, 1, 1] := by
    decide +kernel
  rw [Option.any_eq_true] at done
  obtain ⟨sys, done, facts⟩ := done
  simp only [Bool.and_eq_true, beq_iff_eq] at facts
  obtain ⟨⟨first, second⟩, sent⟩ := facts
  obtain ⟨past, run, -⟩ := Past.of_moves done
  exact ⟨past, sys, run, outcome?_of_told first, outcome?_of_told second, sent, removed_once run 0⟩

end System
end Datagrid
