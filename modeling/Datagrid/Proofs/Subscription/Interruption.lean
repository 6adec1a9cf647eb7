import Datagrid.Proofs.Subscription.Orphans
import Datagrid.Proofs.Subscription.Releases

/-!
Interruption: the making of a registration that comes to nothing leaves nothing behind. An
activity whose request was cancelled, is overdue, or brought no registration drops the route
that it has made before it returns, and its correlation id is never used again. Whatever
still comes of a request that was given up is released.
-/
namespace Datagrid

variable {σ κ : Type}

/-- What an activity returns that has made no registration. -/
def Purpose.failure (fault : Fault) : Purpose → Outcome
  | first _ => .subscribed (.error fault)
  | again => .finished

/-- The making of a registration has come to its end, or waits for the response. -/
def Stage.isConcluding : Stage σ κ → Bool
  | awaitRegistration _ _ _ _ _ _ | removeRoute _ _ _ _ | withdraw _ _ => true
  | _ => false

namespace Step

/-- A step in which an activity makes the route for a registration, and asks for that with the next
    request. -/
def Requests (e : Step (System σ κ) (Move σ κ)) (a : ActivityId) (s : SubscriptionId) (p : Purpose) (c : ConnectionId)
    (k : Int64) (r : RequestId) : Prop :=
  (∃ m, e.Turns a (.addRoute s p c k m)) ∧ e.before.requests.length = r

/-- A step in which an activity gives up waiting for a registration: its token has fired, or the
    time allowed is over. -/
def Abandons (e : Step (System σ κ) (Move σ κ)) (a : ActivityId) (s : SubscriptionId) (p : Purpose) (c : ConnectionId)
    (k : Int64) (r : RequestId) (fault : Fault) : Prop :=
  ∃ late, e.Turns a (.awaitRegistration s p c k r late) ∧ e.before.Interrupted p.token r late fault

/-- A step in which the making of a registration fails: the activity gives up waiting, or the
    response brings none. -/
def Fails (e : Step (System σ κ) (Move σ κ)) (a : ActivityId) (s : SubscriptionId) (p : Purpose) (c : ConnectionId)
    (k : Int64) (r : RequestId) (fault : Fault) : Prop :=
  e.Abandons a s p c k r fault ∨
    ∃ late reply sub, e.Turns a (.awaitRegistration s p c k r late) ∧ e.before.subscription? s = some sub ∧
      e.before.Answered p.token r reply ∧ reply.bind sub.listener.registration = .error fault

/-- A step in which an activity returns. -/
def Returns (e : Step (System σ κ) (Move σ κ)) (a : ActivityId) (outcome : Outcome) : Prop :=
  e.move = .proceed a ∧ e.after.outcome? a = some outcome

/-- Whoever fails has waited for the response. -/
theorem Fails.waited {e : Step (System σ κ) (Move σ κ)} {a : ActivityId} {s : SubscriptionId} {p : Purpose}
    {c : ConnectionId} {k : Int64} {r : RequestId} {fault : Fault} (fails : e.Fails a s p c k r fault) :
    ∃ late, e.Turns a (.awaitRegistration s p c k r late) := by
  rcases fails with ⟨late, turns, -⟩ | ⟨late, -, -, turns, -⟩
  · exact ⟨late, turns⟩
  · exact ⟨late, turns⟩

end Step

namespace System

/-- What a turn does at the end of the making of a registration. -/
inductive Concludes (sys : System σ κ) (s : SubscriptionId) (sub : Subscription σ κ) (change : Change σ κ) :
    Stage σ κ → Prop where
  | abandons {p : Purpose} {c : ConnectionId} {k : Int64} {r : RequestId} {late : Bool} {fault : Fault} :
      sys.Interrupted p.token r late fault → change.stage = .removeRoute s p k fault →
      change.started = [.release sub.listener c r] → Concludes sys s sub change (.awaitRegistration s p c k r late)
  | refused {p : Purpose} {c : ConnectionId} {k : Int64} {r : RequestId} {late : Bool} {reply : Except Fault Message}
      {fault : Fault} : sys.Answered p.token r reply → reply.bind sub.listener.registration = .error fault →
      change.stage = .removeRoute s p k fault → Concludes sys s sub change (.awaitRegistration s p c k r late)
  | registers {p : Purpose} {c : ConnectionId} {k : Int64} {r : RequestId} {late : Bool} {reply : Except Fault Message}
      {id : Uuid} {outcome : Outcome} : sys.Answered p.token r reply → reply.bind sub.listener.registration = .ok id →
      change.stage = .done outcome → (∀ fault, outcome ≠ .subscribed (.error fault)) →
      Concludes sys s sub change (.awaitRegistration s p c k r late)
  | undoes {token : Option TokenId} {k : Int64} {fault : Fault} : change.stage = .withdraw s fault →
      change.routes = sys.routesBut k → Concludes sys s sub change (.removeRoute s (.first token) k fault)
  | fails {k : Int64} {fault : Fault} {now : Subscription σ κ} : change.stage = .done .finished →
      change.routes = sys.routesBut k → change.subscriptions = sys.subscriptions.set s now → now.state = .failed →
      now.registration = .none → Concludes sys s sub change (.removeRoute s .again k fault)
  | withdraws {fault : Fault} {now : Subscription σ κ} : change.stage = .done (.subscribed (.error fault)) →
      change.routes = sys.routes → change.subscriptions = sys.subscriptions.set s now → now.state = .removed →
      Concludes sys s sub change (.withdraw s fault)

/-- A correlation id has been used, and nobody is about to make a route with it. -/
def Spent (sys : System σ κ) (k : Int64) : Prop :=
  sys.Issued k ∧ ∀ a t p d m, sys.stage? a ≠ some (.addRoute t p d k m)

/-- A correlation id has been used, and there is no route with it. -/
structure Lost (sys : System σ κ) (k : Int64) : Prop where
  spent : sys.Spent k
  unrouted : ∀ route, (k, route) ∉ sys.routes

/-- An activity makes a registration of a subscription, or has returned. If it has returned a
    fault, the subscription is removed. -/
def Undertakes (sys : System σ κ) (a : ActivityId) (s : SubscriptionId) : Prop :=
  ∃ stage, sys.stage? a = some stage ∧ (stage.installs? = some s ∨ ∃ outcome, stage = .done outcome ∧
    ∀ fault, outcome = .subscribed (.error fault) → ∃ sub, sys.subscription? s = some sub ∧ sub.state = .removed)

/-- The making of a registration has failed, and the activity undoes what it has done so far. -/
inductive Undoing (sys : System σ κ) (a : ActivityId) (s : SubscriptionId) (k : Int64) (fault : Fault) : Purpose → Prop where
  | undoes (p : Purpose) : sys.stage? a = some (.removeRoute s p k fault) → Undoing sys a s k fault p
  | withdraws (token : Option TokenId) : sys.stage? a = some (.withdraw s fault) → sys.Lost k →
      Undoing sys a s k fault (.first token)
  | undone (p : Purpose) : sys.stage? a = some (.done (p.failure fault)) → Undoing sys a s k fault p

/-- Nothing is left of the making of a registration that has failed: if it was to be the first, the
    subscription is gone, and otherwise it has failed and has no registration. -/
def Undone (sys : System σ κ) (s : SubscriptionId) : Purpose → Prop
  | .first _ => sys.Gone s
  | .again => ∃ sub, sys.subscription? s = some sub ∧ sub.state = .failed ∧ sub.registration = .none

section
variable {sys next : System σ κ} {a b : ActivityId} {s : SubscriptionId} {sub : Subscription σ κ}
  {stage : Stage σ κ} {change : Change σ κ} {move : Move σ κ} {p : Purpose} {c : ConnectionId} {k : Int64}
  {r : RequestId} {late : Bool} {fault : Fault}

/-! ## Turns -/

theorem Turn.concludes (turn : Turn sys a s sub stage change) (concluding : stage.isConcluding = true) :
    Concludes sys s sub change stage := by
  cases turn with
  | abandon c k interrupted => exact .abandons interrupted rfl rfl
  | refuse c k late answered refused => exact .refused answered refused rfl
  | registerFirst c k late answered registered | registerAgain c k late answered registered =>
    exact .registers answered registered rfl (by simp)
  | undoFirst => exact .undoes rfl rfl
  | undoAgain => exact .fails rfl rfl rfl rfl rfl
  | withdraw => exact .withdraws rfl rfl rfl rfl
  | learn acquires | tooLate acquires | beginRemoval acquires | skip acquires | dropAgain acquires =>
    cases acquires <;> cases concluding
  | installAgain ready | failAgain ready => rcases ready with ⟨⟨⟩⟩ <;> cases concluding
  | removeUnregistered leaves | removeUnsaid leaves | remove leaves => cases leaves <;> cases concluding
  | _ => cases concluding

/-- Whoever makes a registration goes on making it, or returns. -/
theorem Turn.installs (turn : Turn sys a s sub stage change) (installs : stage.installs? = some s) :
    change.stage.installs? = some s ∨ ∃ outcome, change.stage = .done outcome ∧
      ∀ fault, outcome = .subscribed (.error fault) →
        ∃ now, change.subscriptions = sys.subscriptions.set s now ∧ now.state = .removed := by
  cases turn with
  | registerFirst | registerAgain | undoAgain => exact .inr ⟨_, rfl, by simp⟩
  | withdraw => exact .inr ⟨_, rfl, fun _ _ => ⟨_, rfl, rfl⟩⟩
  | failAgain => exact .inr ⟨_, rfl, by simp⟩
  | learn acquires | tooLate acquires | beginRemoval acquires | skip acquires | dropAgain acquires =>
    cases acquires <;> cases installs
  | removeUnregistered leaves | removeUnsaid leaves | remove leaves => cases leaves <;> cases installs
  | unlist | wait | learnDropped | interrupted | answered | missed | deliver | undeliverable => cases installs
  | _ => exact .inl rfl

/-- The turn of an activity at such a stage. -/
theorem concludes_of_step (here : sys.stage? a = some stage) (about : stage.subscription? = some s)
    (concluding : stage.isConcluding = true) (taken : sys.step? (.proceed a) = some next) :
    ∃ sub change, sys.subscription? s = some sub ∧ next = sys.after a change ∧ Concludes sys s sub change stage := by
  obtain ⟨stage', change, here', rfl, ⟨t, sub, about', found, turn⟩ | ⟨alone, -⟩⟩ := after_of_proceed taken
  · obtain rfl := Option.some.inj (here.symm.trans here')
    obtain rfl := Option.some.inj (about.symm.trans about')
    exact ⟨sub, change, found, rfl, turn.concludes concluding⟩
  · obtain rfl := Option.some.inj (here.symm.trans here')
    cases about.symm.trans alone

/-- Whoever has returned does nothing more. -/
theorem done_of_step {outcome : Outcome} (here : sys.stage? a = some (.done outcome))
    (taken : sys.step? move = some next) : next.stage? a = some (.done outcome) ∧ move ≠ .proceed a := by
  have other : move ≠ .proceed a := by
    rintro rfl
    simp [step?, proceed, here, Stage.subscription?, proceedAlone] at taken
  obtain ⟨later, there, drift⟩ := drift_of_step taken other here
  cases drift
  exact ⟨there, other⟩

theorem Undertakes.step (undertakes : sys.Undertakes a s) (sound : sys.Sound) (taken : sys.step? move = some next) :
    next.Undertakes a s := by
  obtain ⟨stage, here, installs | ⟨outcome, rfl, removed⟩⟩ := undertakes
  · by_cases own : move = .proceed a
    · subst own
      have about := Stage.subscription?_of_engages? (Stage.engages?_of_installs? installs).1
      obtain ⟨stage', change, here', rfl, ⟨t, sub, about', found, turn⟩ | ⟨alone, -⟩⟩ := after_of_proceed taken
      · obtain rfl := Option.some.inj (here.symm.trans here')
        obtain rfl := Option.some.inj (about.symm.trans about')
        refine ⟨_, stage?_after_self here, ?_⟩
        rcases turn.installs installs with goesOn | ⟨outcome, returns, removed⟩
        · exact .inl goesOn
        · refine .inr ⟨outcome, returns, ?_⟩
          intro fault same
          obtain ⟨now, put, removed⟩ := removed fault same
          exact ⟨now, subscription?_put put found, removed⟩
      · obtain rfl := Option.some.inj (here.symm.trans here')
        cases about.symm.trans alone
    · obtain ⟨later, there, drift⟩ := drift_of_step taken own here
      refine ⟨later, there, .inl ?_⟩
      cases drift <;> exact installs
  · refine ⟨_, (done_of_step here taken).1, .inr ⟨outcome, rfl, ?_⟩⟩
    intro fault same
    exact removed_of_step sound taken (removed fault same)

/-! ## Correlation ids that are lost -/

/-- The correlation id of a request that is waited for has been used. -/
theorem spent_of_waiting (apart : sys.Apart) (sound : sys.Sound)
    (here : sys.stage? a = some (.awaitRegistration s p c k r late)) : sys.Spent k := by
  refine ⟨apart.issued s k (.inr ⟨a, _, here, rfl⟩), ?_⟩
  intro b t q d m there
  obtain rfl := apart.alone sound here rfl there rfl
  cases here.symm.trans there

theorem Spent.step (spent : sys.Spent k) (sound : sys.Sound) (taken : sys.step? move = some next)
    (few : next.correlations < 2 ^ 64) : next.Spent k := by
  refine ⟨spent.1.mono (correlations_le_of_step taken), ?_⟩
  intro a t p d m there
  exact spent.2 a t p d m (not_adding_of_step sound taken few spent.1 there).2

theorem Lost.step (lost : sys.Lost k) (apart : sys.Apart) (sound : sys.Sound) (taken : sys.step? move = some next)
    (few : next.correlations < 2 ^ 64) : next.Lost k := by
  refine ⟨lost.spent.step sound taken few, ?_⟩
  rintro ⟨t, d⟩ there
  rcases (mem_routes_of_step apart sound taken).mp there with ⟨a, p, m, -, adding⟩ | ⟨before, -⟩
  · exact lost.spent.2 a t p d m adding
  · exact lost.unrouted _ before

theorem Spent.lost (spent : sys.Spent k) (taken : sys.step? move = some next) (sound : sys.Sound)
    (few : next.correlations < 2 ^ 64) (routes : next.routes = sys.routesBut k) : next.Lost k := by
  refine ⟨spent.step sound taken few, ?_⟩
  intro route there
  rw [routes] at there
  exact (mem_routesBut.mp there).2 rfl

theorem Lost.route?_eq_none (lost : sys.Lost k) : sys.route? k = none := by
  refine Option.eq_none_iff_forall_ne_some.mpr ?_
  intro route found
  exact lost.unrouted route (mem_routes_of_route? found)

/-- Whoever looks such a correlation id up hands nothing over. -/
theorem Lost.lookup {m : Message} (lost : sys.Lost k) (here : sys.stage? b = some (.route c k m))
    (taken : sys.step? (.proceed b) = some next) : next.outcome? b = some .finished := by
  obtain ⟨stage, change, here', rfl, ⟨t, sub, about, -⟩ | ⟨-, errand⟩⟩ := after_of_proceed taken
  · obtain rfl := Option.some.inj (here.symm.trans here')
    cases about
  · obtain rfl := Option.some.inj (here.symm.trans here')
    refine outcome?_eq_some.mpr ?_
    cases errand with
    | routed _ found => cases lost.route?_eq_none.symm.trans found
    | unrouted => exact stage?_after_self here

/-! ## A registration that fails is undone -/

/-- Nobody gives up waiting for a response that they find there. -/
theorem Interrupted.unanswered {token : Option TokenId} {reply : Except Fault Message}
    (interrupted : sys.Interrupted token r late fault) : ¬ sys.Answered token r reply := by
  rintro ⟨unfired, replied⟩
  rcases interrupted with ⟨fired, -⟩ | ⟨-, silent, -⟩
  · cases fired.symm.trans unfired
  · cases silent.symm.trans replied

theorem Interrupted.unique {token : Option TokenId} {other : Fault} (interrupted : sys.Interrupted token r late fault)
    (interrupted' : sys.Interrupted token r late other) : fault = other := by
  rcases interrupted with ⟨fired, rfl⟩ | ⟨unfired, -, -, rfl⟩ <;>
    rcases interrupted' with ⟨fired', rfl⟩ | ⟨unfired', -, -, rfl⟩
  · rfl
  · cases fired.symm.trans unfired'
  · cases unfired.symm.trans fired'
  · rfl

/-- Whoever gives up waiting leaves it to another to wait for the response. -/
theorem abandons_of_step (abandons : Step.Abandons ⟨sys, move, next⟩ a s p c k r fault)
    (taken : sys.step? move = some next) :
    next.stage? a = some (.removeRoute s p k fault) ∧ ∃ sub b, sys.subscription? s = some sub ∧
      Step.Begins ⟨sys, move, next⟩ b (.release sub.listener c r) := by
  obtain ⟨late, ⟨rfl, here⟩, interrupted⟩ := abandons
  have here : sys.stage? a = some (.awaitRegistration s p c k r late) := here
  obtain ⟨sub, change, found, rfl, concludes⟩ := concludes_of_step here rfl rfl taken
  cases concludes with
  | abandons interrupted' later started =>
    obtain rfl := interrupted.unique interrupted'
    refine ⟨later ▸ stage?_after_self here, sub, sys.activities.length, found, ?_, ?_⟩
    · exact List.getElem?_eq_none (Nat.le_refl _)
    · rw [stage?_after_of_ne (Nat.ne_of_gt (lt_of_stage? here)), started]
      simp
  | refused answered | registers answered => exact absurd answered interrupted.unanswered

/-- Whoever makes no registration drops its route next. -/
theorem removes_of_fails (fails : Step.Fails ⟨sys, move, next⟩ a s p c k r fault) (taken : sys.step? move = some next) :
    next.stage? a = some (.removeRoute s p k fault) := by
  rcases fails with abandons | ⟨late, reply, sub, ⟨rfl, here⟩, found, answered, refused⟩
  · exact (abandons_of_step abandons taken).1
  · have here : sys.stage? a = some (.awaitRegistration s p c k r late) := here
    obtain ⟨sub', change, found', rfl, concludes⟩ := concludes_of_step here rfl rfl taken
    obtain rfl := Option.some.inj (found.symm.trans found')
    cases concludes with
    | abandons interrupted => exact absurd answered interrupted.unanswered
    | refused answered' refused' later =>
      obtain rfl := Option.some.inj (answered.2.symm.trans answered'.2)
      obtain rfl := Except.error.inj (refused.symm.trans refused')
      exact later ▸ stage?_after_self here
    | registers answered' registered =>
      obtain rfl := Option.some.inj (answered.2.symm.trans answered'.2)
      cases refused.symm.trans registered

/-- Whoever waits for a registration waits on, fails, or returns no fault. -/
theorem waiting_of_step (here : sys.stage? a = some (.awaitRegistration s p c k r late))
    (taken : sys.step? move = some next) :
    (∃ late, next.stage? a = some (.awaitRegistration s p c k r late)) ∨
      (∃ fault, Step.Fails ⟨sys, move, next⟩ a s p c k r fault) ∨
      ∃ outcome, next.stage? a = some (.done outcome) ∧ ∀ fault, outcome ≠ .subscribed (.error fault) := by
  by_cases own : move = .proceed a
  · subst own
    obtain ⟨sub, change, found, rfl, concludes⟩ := concludes_of_step here rfl rfl taken
    cases concludes with
    | abandons interrupted => exact .inr (.inl ⟨_, .inl ⟨late, ⟨rfl, here⟩, interrupted⟩⟩)
    | refused answered refused => exact .inr (.inl ⟨_, .inr ⟨late, _, sub, ⟨rfl, here⟩, found, answered, refused⟩⟩)
    | registers _ _ later sound => exact .inr (.inr ⟨_, later ▸ stage?_after_self here, sound⟩)
  · obtain ⟨later, there, drift⟩ := drift_of_step taken own here
    cases drift
    · exact .inl ⟨_, there⟩
    · exact .inl ⟨_, there⟩

/-- Whoever undoes what it has done and has a turn goes on with it, or returns, and then nothing is left. -/
theorem Undoing.turns (undoing : sys.Undoing a s k fault p) (apart : sys.Apart) (sound : sys.Sound) (minded : sys.Minded)
    (spent : sys.Spent k) (taken : sys.step? (.proceed a) = some next) (few : next.correlations < 2 ^ 64) :
    next.Undoing a s k fault p ∧ ∀ outcome, next.stage? a = some (.done outcome) →
      outcome = p.failure fault ∧ next.Undone s p ∧ next.Lost k := by
  cases undoing with
  | undoes p here =>
    obtain ⟨sub, change, found, rfl, concludes⟩ := concludes_of_step here rfl rfl taken
    have self : (sys.after a change).stage? a = some change.stage := stage?_after_self here
    cases concludes with
    | undoes later routes =>
      rw [later] at self
      refine ⟨.withdraws _ self (spent.lost taken sound few routes), ?_⟩
      intro outcome returned
      cases self.symm.trans returned
    | fails later routes put failed unregistered =>
      rw [later] at self
      refine ⟨.undone .again self, ?_⟩
      intro outcome returned
      obtain rfl := Stage.done.inj (Option.some.inj (self.symm.trans returned))
      exact ⟨rfl, ⟨_, subscription?_put put found, failed, unregistered⟩, spent.lost taken sound few routes⟩
  | withdraws token here lost =>
    obtain ⟨sub, change, found, rfl, concludes⟩ := concludes_of_step here rfl rfl taken
    have self : (sys.after a change).stage? a = some change.stage := stage?_after_self here
    cases concludes with
    | withdraws later routes put removed =>
      rw [later] at self
      refine ⟨.undone (.first token) self, ?_⟩
      intro outcome returned
      obtain rfl := Stage.done.inj (Option.some.inj (self.symm.trans returned))
      refine ⟨rfl, ?_, lost.step apart sound taken few⟩
      exact gone_of_removed (sound.step taken) (minded.step sound taken) ⟨_, subscription?_put put found, removed⟩
  | undone p here => exact absurd rfl (done_of_step here taken).2

/-- Whoever undoes what it has done goes on with that until it returns. -/
theorem Undoing.step (undoing : sys.Undoing a s k fault p) (apart : sys.Apart) (sound : sys.Sound) (minded : sys.Minded)
    (spent : sys.Spent k) (taken : sys.step? move = some next) (few : next.correlations < 2 ^ 64) :
    next.Undoing a s k fault p := by
  by_cases own : move = .proceed a
  · subst own
    exact (undoing.turns apart sound minded spent taken few).1
  · cases undoing with
    | undoes p here =>
      obtain ⟨later, there, drift⟩ := drift_of_step taken own here
      cases drift
      exact .undoes p there
    | withdraws token here lost =>
      obtain ⟨later, there, drift⟩ := drift_of_step taken own here
      cases drift
      exact .withdraws token there (lost.step apart sound taken few)
    | undone p here => exact .undone p (done_of_step here taken).1

end

/-! ## Through a run -/

/-- No event with a correlation id is handed over: whoever looks one up is done then. -/
def Unheard (more : List (Step (System σ κ) (Move σ κ))) (k : Int64) : Prop :=
  ∀ e ∈ more, ∀ b c m, e.Turns b (.route c k m) → e.after.outcome? b = some .finished

/-- The making of a registration that comes to nothing leaves nothing behind. -/
structure LeavesNothing (past : List (Step (System σ κ) (Move σ κ))) (sys : System σ κ) : Prop where
  /-- Whoever is cancelled before it has begun returns, and changes nothing. -/
  entered : ∀ a listener token, sys.stage? a = some (.subscribe listener token) → sys.isFired token = true →
    sys.step? (.proceed a) = some (sys.finish a (.subscribed (.error .cancelled)))
  /-- If a fault is returned to whoever subscribes, the subscription is gone, and the request that was
      made for it, if any, has failed with that fault. -/
  returned : ∀ earlier back later entered a s token fault, past = earlier ++ back :: later →
    entered ∈ earlier → entered.Turns a (.enter s token) → back.Returns a (.subscribed (.error fault)) →
    back.after.Gone s ∧ ∀ made ∈ earlier, ∀ p c k r, made.Requests a s p c k r →
      ∃ failed ∈ earlier, failed.Fails a s p c k r fault
  /-- Whatever fails had been asked for on that connection, with that correlation id. -/
  sent : ∀ earlier failed later a s p c k r fault, past = earlier ++ failed :: later →
    failed.Fails a s p c k r fault →
    ∃ made ∈ earlier, made.Requests a s p c k r ∧ ∃ m, made.Sends a ⟨c, m, .spawned⟩
  /-- When the activity returns, there is no route with the correlation id, none will be found by an
      event, and the subscription is gone, or failed where it was to be registered again. -/
  undone : ∀ earlier back later failed a s p c k r fault outcome, past = earlier ++ back :: later →
    failed ∈ earlier → failed.Fails a s p c k r fault → back.Returns a outcome →
    outcome = p.failure fault ∧ back.after.Undone s p ∧ back.after.route? k = none ∧ Unheard later k
  /-- A request that was given up is released by another activity. -/
  released : ∀ earlier gaveUp later a s p c k r fault, past = earlier ++ gaveUp :: later →
    gaveUp.Abandons a s p c k r fault → ∃ sub b, gaveUp.before.subscription? s = some sub ∧
      gaveUp.Begins b (.release sub.listener c r) ∧ Released later sys sub.listener c r b
  /-- Everybody who has failed gets to return, whatever the transport does. -/
  returns : ∀ failed ∈ past, ∀ a s p c k r fault, failed.Fails a s p c k r fault →
    ∃ later outcome, Advances sys later ∧ later.outcome? a = some outcome

section
variable {limit : Timespan} {surroundings : σ} {past more earlier later : List (Step (System σ κ) (Move σ κ))}
  {base sys : System σ κ} {e failed back : Step (System σ κ) (Move σ κ)} {a b : ActivityId} {s : SubscriptionId}
  {p : Purpose} {c : ConnectionId} {k : Int64} {r : RequestId} {late : Bool} {fault : Fault} {outcome : Outcome}

/-- What is kept by every step of a sound system stays so, for as long as there are enough correlation ids. -/
private theorem invariant_since (holds : System σ κ → Prop) (run : Past step? (System.new limit surroundings) past base)
    (goesOn : Past step? base more sys) (few : sys.correlations < 2 ^ 64) (first : holds base)
    (kept : ∀ sys move next, sys.Apart → sys.Sound → sys.Minded → holds sys → sys.step? move = some next →
      next.correlations < 2 ^ 64 → holds next) : holds sys := by
  induction goesOn with
  | start => exact first
  | step move goesOn taken ih =>
    have few' := Nat.lt_of_le_of_lt (correlations_le_of_step taken) few
    have upto := run.append goesOn
    exact kept _ move _ (apart_of_past upto few') (sound_of_past upto) (minded_of_past upto) (ih few') taken few

theorem lost_since (run : Past step? (System.new limit surroundings) past base) (goesOn : Past step? base more sys)
    (few : sys.correlations < 2 ^ 64) (lost : base.Lost k) : sys.Lost k :=
  invariant_since (Lost · k) run goesOn few lost fun _ _ _ apart sound _ lost taken few => lost.step apart sound taken few

theorem unheard_of_lost (run : Past step? (System.new limit surroundings) past base) (goesOn : Past step? base more sys)
    (few : sys.correlations < 2 ^ 64) (lost : base.Lost k) : Unheard more k := by
  rintro e there b c m ⟨own, here⟩
  obtain ⟨earlier, later, split⟩ := List.append_of_mem there
  obtain ⟨upto, taken⟩ := goesOn.upto split
  rw [own] at taken
  exact (lost_since run upto (few_of_split goesOn few split).1 lost).lookup here taken

/-- Whoever makes the route for a registration sends the message that it has come with. -/
theorem sends_of_requests (taken : e.before.step? e.move = some e.after) (requests : e.Requests a s p c k r) :
    ∃ m, e.before.stage? a = some (.addRoute s p c k m) ∧ e.Sends a ⟨c, m, .spawned⟩ := by
  obtain ⟨⟨m, own, here⟩, -⟩ := requests
  rw [own] at taken
  exact ⟨m, here, own, (step_addRoute here taken).2.1⟩

/-- Whoever waits for a registration has asked for it. -/
theorem sent_of_past (run : Past step? (System.new limit surroundings) past sys)
    (here : sys.stage? a = some (.awaitRegistration s p c k r late)) :
    ∃ made ∈ past, made.Requests a s p c k r := by
  induction run generalizing late with
  | start => cases here
  | @step past now next move run taken ih =>
    have before {late : Bool} (here : now.stage? a = some (.awaitRegistration s p c k r late)) :
        ∃ made ∈ past ++ [⟨now, move, next⟩], made.Requests a s p c k r := by
      obtain ⟨made, there, sent⟩ := ih here
      exact ⟨made, List.mem_append_left _ there, sent⟩
    rcases stage?_of_step taken here with
      ⟨stage, change, rfl, here', rfl, later, ⟨t, sub, -, -, turn⟩ | ⟨-, errand⟩⟩ | ⟨-, stage, here', drift⟩ | ⟨-, begins⟩
    · rcases turn.waits with ⟨-, leaves⟩ | ⟨-, -, p', c', k', m, adding, coming, -⟩ | ⟨-, -, -, -, -, -, leaves, -⟩
      · simp [← later, Stage.awaits?] at leaves
      · cases later.trans coming
        exact ⟨_, List.mem_concat_self, ⟨m, rfl, adding ▸ here'⟩, rfl⟩
      · simp [← later, Stage.awaits?] at leaves
    · have idle := errand.idle.1
      simp [← later, Stage.awaits?] at idle
    · cases drift
      · exact before here'
      · exact before here'
    · cases begins.engages?

/-- Whoever waits for a registration waits on, has failed, or has returned no fault. -/
theorem waiting_since (goesOn : Past step? base more sys)
    (here : base.stage? a = some (.awaitRegistration s p c k r late)) :
    (∃ late, sys.stage? a = some (.awaitRegistration s p c k r late)) ∨
      (∃ failed ∈ more, ∃ fault, failed.Fails a s p c k r fault) ∨
      ∃ outcome, sys.stage? a = some (.done outcome) ∧ ∀ fault, outcome ≠ .subscribed (.error fault) := by
  induction goesOn with
  | start => exact .inl ⟨late, here⟩
  | step move _ taken ih =>
    rcases ih with ⟨late, there⟩ | ⟨failed, there, fault, fails⟩ | ⟨outcome, there, sound⟩
    · rcases waiting_of_step there taken with waits | ⟨fault, fails⟩ | returned
      · exact .inl waits
      · exact .inr (.inl ⟨_, List.mem_concat_self, fault, fails⟩)
      · exact .inr (.inr returned)
    · exact .inr (.inl ⟨failed, List.mem_append_left _ there, fault, fails⟩)
    · exact .inr (.inr ⟨outcome, (done_of_step there taken).1, sound⟩)

/-- Whoever has failed undoes what it has done. -/
theorem failing_of_past (run : Past step? (System.new limit surroundings) past sys) (few : sys.correlations < 2 ^ 64)
    (there : failed ∈ past) (fails : failed.Fails a s p c k r fault) : sys.Undoing a s k fault p ∧ sys.Spent k := by
  obtain ⟨earlier, later, split⟩ := List.append_of_mem there
  obtain ⟨upto, taken⟩ := run.upto split
  obtain ⟨few', few''⟩ := few_of_split run few split
  obtain ⟨late, -, here⟩ := fails.waited
  have sound := sound_of_past upto
  have spent := (spent_of_waiting (apart_of_past upto few') sound here).step sound taken few''
  refine invariant_since (fun sys => sys.Undoing a s k fault p ∧ sys.Spent k) (upto.step _ taken) (run.since split) few
    ⟨.undoes p (removes_of_fails fails taken), spent⟩ ?_
  rintro sys move next apart sound minded ⟨undoing, spent⟩ taken few
  exact ⟨undoing.step apart sound minded spent taken few, spent.step sound taken few⟩

/-- When whoever has failed returns, nothing is left of what it has done. -/
theorem undone_of_returns (run : Past step? (System.new limit surroundings) past sys) (few : sys.correlations < 2 ^ 64)
    (split : past = earlier ++ back :: later) (there : failed ∈ earlier) (fails : failed.Fails a s p c k r fault)
    (returns : back.Returns a outcome) :
    outcome = p.failure fault ∧ back.after.Undone s p ∧ back.after.route? k = none ∧ Unheard later k := by
  obtain ⟨upto, taken⟩ := run.upto split
  obtain ⟨few', few''⟩ := few_of_split run few split
  obtain ⟨undoing, spent⟩ := failing_of_past upto few' there fails
  obtain ⟨own, returned⟩ := returns
  rw [own] at taken
  have undone := (undoing.turns (apart_of_past upto few') (sound_of_past upto) (minded_of_past upto) spent taken few'').2
  obtain ⟨same, nothing, lost⟩ := undone outcome (outcome?_eq_some.mp returned)
  exact ⟨same, nothing, lost.route?_eq_none, unheard_of_lost (upto.step _ taken) (run.since split) few lost⟩

/-- Whoever has come to make a registration makes it, or has returned. -/
theorem undertakes_since (goesOn : Past step? base more sys) (sound : base.Sound) (undertakes : base.Undertakes a s) :
    sys.Undertakes a s := by
  induction goesOn with
  | start => exact undertakes
  | step move goesOn taken ih => exact ih.step (sound_since goesOn sound) taken

/-- A subscription is gone when a fault is returned to whoever subscribes. -/
theorem gone_of_returned {token : Option TokenId} (run : Past step? (System.new limit surroundings) past sys)
    (there : e ∈ past) (turns : e.Turns a (.enter s token))
    (returned : sys.outcome? a = some (.subscribed (.error fault))) : sys.Gone s := by
  obtain ⟨earlier, later, split⟩ := List.append_of_mem there
  obtain ⟨upto, taken⟩ := run.upto split
  have sound := sound_of_past upto
  have undertakes : e.before.Undertakes a s := ⟨_, turns.2, .inl rfl⟩
  have undertakes := undertakes_since (run.since split) (sound.step taken) (undertakes.step sound taken)
  obtain ⟨stage, here, kind⟩ := undertakes
  obtain rfl := Option.some.inj (here.symm.trans (outcome?_eq_some.mp returned))
  rcases kind with installs | ⟨outcome, same, removed⟩
  · cases installs
  · cases same
    exact gone_of_removed (sound_of_past run) (minded_of_past run) (removed fault rfl)

/-- The request for a registration has failed when a fault is returned to whoever made it. -/
theorem failed_of_returned (run : Past step? (System.new limit surroundings) past sys)
    (few : sys.correlations < 2 ^ 64) (there : e ∈ past) (requests : e.Requests a s p c k r)
    (returned : sys.outcome? a = some (.subscribed (.error fault))) :
    ∃ failed ∈ past, failed.Fails a s p c k r fault := by
  obtain ⟨earlier, later, split⟩ := List.append_of_mem there
  obtain ⟨⟨m, own, here⟩, rfl⟩ := requests
  have taken := (run.upto split).2
  rw [own] at taken
  have done := outcome?_eq_some.mp returned
  rcases waiting_since (run.since split) (step_addRoute here taken).2.2 with
    ⟨late, waits⟩ | ⟨failed, after, other, fails⟩ | ⟨outcome, returned', sound⟩
  · cases waits.symm.trans done
  · have within : failed ∈ past := by simp [split, after]
    refine ⟨failed, within, ?_⟩
    cases (failing_of_past run few within fails).1 with
    | undoes _ here' | withdraws _ here' => cases here'.symm.trans done
    | undone p here' =>
      have same := Stage.done.inj (Option.some.inj (here'.symm.trans done))
      cases p with
      | again => cases same
      | first =>
        obtain rfl : other = fault := by simpa [Purpose.failure] using same
        exact fails
  · obtain rfl := Stage.done.inj (Option.some.inj (returned'.symm.trans done))
    exact absurd rfl (sound fault)

/-- Whoever has failed gets to return. -/
theorem served_of_fails (run : Past step? (System.new limit surroundings) past sys) (few : sys.correlations < 2 ^ 64)
    (there : failed ∈ past) (fails : failed.Fails a s p c k r fault) :
    ∃ later outcome, Advances sys later ∧ later.outcome? a = some outcome := by
  have sound := sound_of_past run
  cases (failing_of_past run few there fails).1 with
  | undoes p here =>
    obtain ⟨later, outcome, advances, done⟩ := served_of_engaged sound here rfl
    exact ⟨later, outcome, advances, outcome?_eq_some.mpr done⟩
  | withdraws token here =>
    obtain ⟨later, outcome, advances, done⟩ := served_of_engaged sound here rfl
    exact ⟨later, outcome, advances, outcome?_eq_some.mpr done⟩
  | undone p here => exact ⟨sys, _, .refl sys, outcome?_eq_some.mpr here⟩

/-- The making of a registration that comes to nothing leaves nothing behind. -/
theorem leaves_nothing (run : Past step? (System.new limit surroundings) past sys) (few : sys.correlations < 2 ^ 64) :
    LeavesNothing past sys := by
  refine ⟨?_, ?_, ?_, ?_, ?_, ?_⟩
  · intro a listener token here fired
    simp [step?, proceed, here, Stage.subscription?, proceedAlone, fired]
  · intro earlier back later entered a s token fault split there turns returns
    obtain ⟨upto, taken⟩ := run.upto split
    have whole := upto.step _ taken
    refine ⟨gone_of_returned whole (List.mem_append_left _ there) turns returns.2, ?_⟩
    intro made within p c k r requests
    have few' := (few_of_split run few split).2
    obtain ⟨failed, when, fails⟩ := failed_of_returned whole few' (List.mem_append_left _ within) requests returns.2
    refine ⟨failed, ?_, fails⟩
    rcases List.mem_append.mp when with before | last
    · exact before
    · -- whoever has just failed has not returned
      obtain rfl := List.mem_singleton.mp last
      cases (removes_of_fails fails taken).symm.trans (outcome?_eq_some.mp returns.2)
  · intro earlier failed later a s p c k r fault split fails
    obtain ⟨late, -, here⟩ := fails.waited
    have upto := (run.upto split).1
    obtain ⟨made, there, requests⟩ := sent_of_past upto here
    obtain ⟨-, -, taken⟩ := upto.mem there
    obtain ⟨m, -, sends⟩ := sends_of_requests taken requests
    exact ⟨made, there, requests, m, sends⟩
  · intro earlier back later failed a s p c k r fault outcome split there fails returns
    exact undone_of_returns run few split there fails returns
  · intro earlier gaveUp later a s p c k r fault split abandons
    obtain ⟨upto, taken⟩ := run.upto split
    obtain ⟨-, sub, b, found, begins⟩ := abandons_of_step abandons taken
    exact ⟨sub, b, found, begins, released_since (upto.step _ taken) (run.since split) few begins.2⟩
  · intro failed there a s p c k r fault fails
    exact served_of_fails run few there fails

end

/-- A subscription to a map is cancelled while its request is on its way, and the response comes later. -/
def cancelled : List (Move Surroundings (EntryCall Unit)) :=
  [.use (some 0), .begin (.subscribe World.orders.listener (some 7)), .proceed 0, .proceed 0, .proceed 0, .proceed 0,
    .send 0, .cancel 7, .proceed 0, .proceed 0, .proceed 0, .answer 0 (World.granting 1), .proceed 1]

/-- The registrations that the member is asked to take off. -/
def takenOff (sys : System σ κ) : List Uuid :=
  sys.requests.filterMap fun request =>
    match mapOrder request.message with
    | .remove id => some id
    | _ => none

/-- Whether whoever subscribed was told that it was cancelled. -/
def wasCancelled (sys : System σ κ) (a : ActivityId) : Bool :=
  match sys.outcome? a with
  | some (.subscribed (.error .cancelled)) => true
  | _ => false

theorem outcome?_of_wasCancelled {sys : System σ κ} {a : ActivityId} (was : wasCancelled sys a = true) :
    sys.outcome? a = some (.subscribed (.error .cancelled)) := by
  unfold wasCancelled at was
  split at was
  · next here => exact here
  · cases was

theorem cancelled_subscription_is_released : ∃ (past : _) (sys : System Surroundings (EntryCall Unit)),
    Past step? (System.new (.ofSeconds 60) ⟨.closed .standard, .empty⟩) past sys ∧ sys.correlations < 2 ^ 64 ∧
      sys.outcome? 0 = some (.subscribed (.error .cancelled)) ∧ takenOff sys = [⟨0, 1⟩] ∧
      (∀ id k, ∃ m message, World.orders.listener.removal id = .ok m ∧ m.setCorrelation k = .ok message) ∧
      LeavesNothing past sys := by
  have done : (cancelled.foldlM step? (System.new (.ofSeconds 60) ⟨.closed .standard, .empty⟩)).any fun sys =>
      decide (sys.correlations < 2 ^ 64) && wasCancelled sys 0 && takenOff sys == [⟨0, 1⟩] := by
    decide +kernel
  rw [Option.any_eq_true] at done
  obtain ⟨sys, done, facts⟩ := done
  simp only [Bool.and_eq_true, decide_eq_true_eq, beq_iff_eq] at facts
  obtain ⟨⟨few, told⟩, taken⟩ := facts
  obtain ⟨past, run, -⟩ := Past.of_moves done
  exact ⟨past, sys, run, few, outcome?_of_wasCancelled told, taken, World.orders.removal_encodes, leaves_nothing run few⟩

end System
end Datagrid
