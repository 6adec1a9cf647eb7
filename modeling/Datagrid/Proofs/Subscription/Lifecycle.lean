import Datagrid.Proofs.Subscription.Interruption
import Mathlib.Data.List.Chain

/-!
Lifecycle: the states of a subscription, one after the other. It is installed once, then active, and registered
again whenever a connection asks for it, until it is removed for good. Whoever changes its state has its lock.
While a request for a registration is under way the subscription is being registered, and nobody asks for another.
The id of a subscription means that one and no other, for as long as it is not removed.
-/
namespace Datagrid

variable {σ κ : Type}

/-- The ways from one state of a subscription to another. -/
inductive SubscriptionState.Next : SubscriptionState → SubscriptionState → Prop where
  | install : Next .created .installing
  | installed : Next .installing .active
  | withdraw : Next .installing .removed
  | reinstall : Next .active .reinstalling
  | reinstalled : Next .reinstalling .active
  | fail : Next .reinstalling .failed
  | retry : Next .failed .reinstalling
  | remove : Next .active .removed
  | giveUp : Next .failed .removed

namespace Subscription

/-- An activity brings a subscription into another state, and has its lock for that. -/
structure Progresses (sub now : Subscription σ κ) (a : ActivityId) : Prop where
  next : sub.state.Next now.state
  /-- It had the lock before, or has taken a free one. -/
  holder : sub.holder = some a ∨ sub.holder = none ∧ now.holder = some a

/-- A subscription that nobody is changing can be registered again, or removed. -/
theorem Settled.next {sub : Subscription σ κ} {listed : Prop} (settled : sub.Settled listed)
    (live : sub.state ≠ .removed) : sub.state.Next .reinstalling ∧ sub.state.Next .removed := by
  cases settled with
  | active state => exact ⟨state ▸ .reinstall, state ▸ .remove⟩
  | failed state => exact ⟨state ▸ .retry, state ▸ .giveUp⟩
  | removed state => exact absurd state live

end Subscription

/-- The subscription that the call of an activity is about to return, or has returned. -/
def Stage.founds? : Stage σ κ → Option SubscriptionId
  | enter s _ | list s _ | addRoute s (.first _) _ _ _ | awaitRegistration s (.first _) _ _ _ _
  | done (.subscribed (.ok s)) => some s
  | _ => none

theorem Stage.Drift.founds? {stage later : Stage σ κ} (drift : stage.Drift later) : later.founds? = stage.founds? := by
  cases drift with
  | lateRegistration _ p => cases p <;> rfl
  | _ => rfl

theorem Stage.Begins.founds? {stage : Stage σ κ} (begins : stage.Begins) : stage.founds? = none := by
  cases begins with
  | asked beginning => cases beginning <;> rfl
  | _ => rfl

namespace Step

/-- A step in which an activity that waits for a registration finds the response there. -/
def Gets (e : Step (System σ κ) (Move σ κ)) (a : ActivityId) (s : SubscriptionId) (p : Purpose) (c : ConnectionId)
    (k : Int64) (r : RequestId) : Prop :=
  ∃ late reply, e.Turns a (.awaitRegistration s p c k r late) ∧ e.before.Answered p.token r reply

/-- A step in which the call of an activity begins a subscription for its listener. -/
def Creates (e : Step (System σ κ) (Move σ κ)) (a : ActivityId) (s : SubscriptionId) (listener : Listener σ κ) : Prop :=
  (∃ token, e.Turns a (.subscribe listener token)) ∧ e.before.subscription? s = none ∧
    ∃ sub, e.after.subscription? s = some sub ∧ sub.state = .created ∧ sub.listener = listener

end Step

namespace System

/-- The states of a subscription after each of the steps since it began. -/
def states (past : List (Step (System σ κ) (Move σ κ))) (s : SubscriptionId) : List SubscriptionState :=
  past.filterMap fun e => (e.after.subscription? s).map (·.state)

/-- A request for a registration is under way: it has been made, and whoever waits for the response
    has neither given up nor found it there. -/
def InFlight (past : List (Step (System σ κ) (Move σ κ))) (s : SubscriptionId) (r : RequestId) : Prop :=
  ∃ made ∈ past, ∃ a p c k, made.Requests a s p c k r ∧
    ∀ e ∈ past, (∀ fault, ¬ e.Abandons a s p c k r fault) ∧ ¬ e.Gets a s p c k r

/-- An id still means a subscription: it is in the table, or removed, or removed in the next turn of the one
    who has its lock. -/
def Names (sys : System σ κ) (s : SubscriptionId) (sub : Subscription σ κ) : Prop :=
  s ∈ sys.table ∨ sub.state = .removed ∨ ∃ b next now, sub.holder = some b ∧ sys.step? (.proceed b) = some next ∧
    next.subscription? s = some now ∧ now.state = .removed

section
variable {sys next : System σ κ} {a b : ActivityId} {s t : SubscriptionId} {sub now : Subscription σ κ}
  {stage later : Stage σ κ} {change : Change σ κ} {move : Move σ κ} {p : Purpose} {c : ConnectionId} {k : Int64}
  {r : RequestId} {late : Bool}

/-! ## One step -/

private theorem Leaves.progresses {token : Option TokenId} {table : List SubscriptionId} {routes : List (Int64 × Route)}
    (leaves : Leaves sys s sub token stage table routes) (kept : sys.Kept s sub) (here : sys.stage? a = some stage)
    (removed : now.state = .removed) : sub.Progresses now a := by
  cases leaves with
  | unrouted =>
    obtain ⟨has, settled, live⟩ := kept.has here rfl (by simp)
    exact ⟨removed ▸ (settled.next live).2, .inl has⟩
  | dropped =>
    obtain ⟨has, state, -⟩ := kept.has here rfl (by simp)
    exact ⟨by rw [state, removed]; exact .remove, .inl has⟩

/-- Whatever a turn does with a subscription, it leaves its state, or brings it into a next one. -/
theorem Turn.progresses (turn : Turn sys a s sub stage change) (kept : sys.Kept s sub)
    (found : sys.subscription? s = some sub) (here : sys.stage? a = some stage) :
    ∃ now, change.subscriptions = sys.subscriptions.set s now ∧ (now.state = sub.state ∨ sub.Progresses now a) := by
  have unchanged : sys.subscriptions = sys.subscriptions.set s sub := (set_found found).symm
  -- whoever registers a subscription again has come for its lock, and finds it settled
  have renews {goal : Goal} {now : Subscription σ κ} (acquires : Acquires a s sub goal stage)
      (live : sub.state ≠ .removed) (state : now.state = .reinstalling) (has : now.holder = some a) :
      sub.Progresses now a := by
    obtain ⟨had, settled⟩ := acquires.before kept here
    exact ⟨state ▸ (settled.next live).1, had.imp_right fun free => ⟨free, has⟩⟩
  cases turn with
  | enter =>
    obtain ⟨has, state, -⟩ := kept.has here rfl (by simp)
    exact ⟨_, rfl, .inr ⟨by rw [state]; exact .install, .inl has⟩⟩
  | registerFirst =>
    obtain ⟨has, state, -⟩ := kept.has here rfl (by simp)
    exact ⟨_, rfl, .inr ⟨by rw [state]; exact .installed, .inl has⟩⟩
  | registerAgain =>
    obtain ⟨has, state, -⟩ := kept.has here rfl (by simp)
    exact ⟨_, rfl, .inr ⟨by rw [state]; exact .reinstalled, .inl has⟩⟩
  | undoAgain =>
    obtain ⟨has, state, -⟩ := kept.has here rfl (by simp)
    exact ⟨_, rfl, .inr ⟨by rw [state]; exact .fail, .inl has⟩⟩
  | withdraw =>
    obtain ⟨has, state, -⟩ := kept.has here rfl (by simp)
    exact ⟨_, rfl, .inr ⟨by rw [state]; exact .withdraw, .inl has⟩⟩
  | dropAgain acquires unspared =>
    exact ⟨_, rfl, .inr (renews acquires (fun removed => unspared (.inl removed)) rfl rfl)⟩
  | installAgain ready =>
    cases ready with
    | unrouted acquires unspared =>
      exact ⟨_, rfl, .inr (renews acquires (fun removed => unspared (.inl removed)) rfl rfl)⟩
    | dropped => exact ⟨_, rfl, .inl rfl⟩
  | failAgain ready =>
    cases ready with
    | unrouted acquires unspared routed =>
      -- without a route, it had failed before
      obtain ⟨-, settled⟩ := acquires.before kept here
      obtain ⟨state, -⟩ := settled.failed_of_unrouted (fun gone => unspared (.inl gone)) routed
      exact ⟨_, rfl, .inl state.symm⟩
    | dropped =>
      obtain ⟨has, state, -⟩ := kept.has here rfl (by simp)
      exact ⟨_, rfl, .inr ⟨by rw [state]; exact .fail, .inl has⟩⟩
  | removeUnregistered leaves | removeUnsaid leaves | remove leaves =>
    exact ⟨_, rfl, .inr (leaves.progresses kept here rfl)⟩
  | unconnected | list | unready | addRoute | abandon | refuse | missed | deliver | undeliverable =>
    exact ⟨sub, unchanged, .inl rfl⟩
  | _ => exact ⟨_, rfl, .inl rfl⟩

/-- A subscription stays, and only whoever has its lock brings it into a next state. -/
theorem progresses_of_step (sound : sys.Sound) (taken : sys.step? move = some next)
    (found : sys.subscription? s = some sub) :
    ∃ now, next.subscription? s = some now ∧
      (now.state = sub.state ∨ ∃ a, move = .proceed a ∧ sub.Progresses now a) := by
  by_cases turns : ∃ a, move = .proceed a
  · obtain ⟨a, rfl⟩ := turns
    obtain ⟨stage, change, here, rfl, ⟨t, old, -, found', turn⟩ | ⟨-, errand⟩⟩ := after_of_proceed taken
    · obtain ⟨now, put, kind⟩ := turn.progresses (sound.kept t old found') found' here
      by_cases same : s = t
      · subst same
        obtain rfl := Option.some.inj (found.symm.trans found')
        exact ⟨now, subscription?_put put found, kind.imp_right fun progresses => ⟨a, rfl, progresses⟩⟩
      · exact ⟨sub, (subscription?_put_of_ne put same).trans found, .inl rfl⟩
    · exact ⟨sub, errand.subscription?_after found, .inl rfl⟩
  · have drifts := drifts_of_step taken fun a same => turns ⟨a, same⟩
    have found : next.subscriptions[s]? = some sub := drifts.subscriptions ▸ found
    exact ⟨sub, found, .inl rfl⟩

/-- A subscription that was not there has just been created by the call of an activity. -/
theorem creates_of_step (taken : sys.step? move = some next) (new : sys.subscription? s = none)
    (there : next.subscription? s = some now) :
    now.state = .created ∧ ∃ a, Step.Creates ⟨sys, move, next⟩ a s now.listener := by
  by_cases turns : ∃ a, move = .proceed a
  · obtain ⟨a, rfl⟩ := turns
    obtain ⟨stage, change, here, rfl, ⟨t, old, -, found', turn⟩ | ⟨-, errand⟩⟩ := after_of_proceed taken
    · obtain ⟨now', put, -⟩ := turn.listener_eq found'
      have other : s ≠ t := by
        rintro rfl
        cases new.symm.trans found'
      cases new.symm.trans ((subscription?_put_of_ne put other).symm.trans there)
    · rcases errand.subscription?_cases there with before | ⟨-, listener, token, request, rfl, -, rfl⟩
      · cases new.symm.trans before
      · exact ⟨rfl, a, ⟨token, rfl, here⟩, new, _, there, rfl, rfl⟩
  · have drifts := drifts_of_step taken fun a same => turns ⟨a, same⟩
    have there : sys.subscriptions[s]? = some now := drifts.subscriptions ▸ there
    cases new.symm.trans there

theorem Turn.founds (turn : Turn sys a t sub stage change) (founds : change.stage.founds? = some s) :
    stage.founds? = some s := by
  cases turn with
  | enter | list | registerFirst => exact founds
  | addRoute p => cases p <;> exact founds
  | _ => cases founds

theorem Errand.founds (errand : Errand sys a stage change) (founds : change.stage.founds? = some s) :
    ∃ listener token request, stage = .subscribe listener token ∧ s = sys.subscriptions.length ∧
      change.subscriptions = sys.subscriptions ++ [created a listener request] := by
  cases errand with
  | create => exact ⟨_, _, _, rfl, (Option.some.inj founds).symm, rfl⟩
  | miss goal => cases goal <;> cases founds
  | _ => cases founds

/-- Whoever is about to return a subscription was so before, or has just created it. -/
theorem founds_of_step (taken : sys.step? move = some next) (there : next.stage? b = some later)
    (founds : later.founds? = some s) :
    (∃ stage, sys.stage? b = some stage ∧ stage.founds? = some s) ∨
      ∃ listener, Step.Creates ⟨sys, move, next⟩ b s listener := by
  rcases stage?_of_step taken there with
    ⟨stage, change, rfl, here, rfl, rfl, ⟨t, sub, -, -, turn⟩ | ⟨-, errand⟩⟩ | ⟨-, stage, before, drift⟩ | ⟨-, begins⟩
  · exact .inl ⟨stage, here, turn.founds founds⟩
  · obtain ⟨listener, token, request, rfl, rfl, more⟩ := errand.founds founds
    refine .inr ⟨listener, ⟨token, rfl, here⟩, ?_, created b listener request, ?_, rfl, rfl⟩
    · exact List.getElem?_eq_none (Nat.le_refl _)
    · simp [subscription?, more]
  · exact .inl ⟨stage, before, drift.founds?.symm.trans founds⟩
  · cases begins.founds?.symm.trans founds

/-- Whoever waits for a registration waits on, unless it gives up or finds the response there. -/
theorem awaits_on_of_step (here : sys.stage? a = some (.awaitRegistration s p c k r late))
    (taken : sys.step? move = some next) (patient : ∀ fault, ¬ Step.Abandons ⟨sys, move, next⟩ a s p c k r fault)
    (silent : ¬ Step.Gets ⟨sys, move, next⟩ a s p c k r) :
    ∃ late, next.stage? a = some (.awaitRegistration s p c k r late) := by
  have own : move ≠ .proceed a := by
    rintro rfl
    obtain ⟨sub, change, -, rfl, concludes⟩ := concludes_of_step here rfl rfl taken
    cases concludes with
    | abandons interrupted => exact patient _ ⟨late, ⟨rfl, here⟩, interrupted⟩
    | refused answered | registers answered => exact silent ⟨late, _, ⟨rfl, here⟩, answered⟩
  obtain ⟨later, there, drift⟩ := drift_of_step taken own here
  cases drift <;> exact ⟨_, there⟩

/-- Once it has been put into the table, the id of a subscription means it until it is removed. -/
theorem Sound.names (sound : sys.Sound) (found : sys.subscription? s = some sub)
    (begun : ∀ a token, sys.stage? a ≠ some (.enter s token) ∧ sys.stage? a ≠ some (.list s token)) :
    sys.Names s sub := by
  have kept := sound.kept s sub found
  have settled (settled : sub.Settled (s ∈ sys.table)) : sys.Names s sub := by
    cases settled with
    | active _ listed => exact .inl listed
    | failed _ listed => exact .inl listed
    | removed state => exact .inr (.inl state)
  have installing {p : Purpose} (installing : sub.Installing (s ∈ sys.table) p) : sys.Names s sub := by
    cases p <;> exact .inl installing.2.1
  cases holder : sub.holder with
  | none => exact settled (kept.free holder).2
  | some b =>
    obtain ⟨stage, here, engaged, holds⟩ := kept.holder b holder
    cases stage <;> simp only [Stage.engages?, Option.some.injEq, reduceCtorEq] at engaged <;> subst engaged
    case enter token => exact absurd here (begun b token).1
    case list token => exact absurd here (begun b token).2
    case addRoute => exact installing holds
    case awaitRegistration => exact installing holds
    case removeRoute => exact installing holds
    case withdraw => exact .inl holds.2.1
    case queue => exact settled holds
    case unlist => exact settled holds.1
    case awaitRemoval => exact .inr (.inl holds.1)
    case dropRoute k goal =>
      cases goal with
      | reinstall => exact installing (p := .again) holds
      | registration => exact holds.elim
      | unsubscribe token =>
        obtain ⟨-, -, c, id, registered⟩ := holds
        obtain ⟨next, taken⟩ := proceeds_of_holder here rfl found holder rfl
        have parts : sys.Parts b _ sub := ⟨k, token, sub, here, found, by rw [registered], rfl⟩
        have taken : sys.step? (.proceed b) = some next := taken
        rcases parts.step sound taken with ⟨other, -⟩ | ⟨-, ⟨⟨now, there, removed⟩, -⟩, -⟩
        · exact absurd rfl other
        · exact .inr (.inr ⟨b, next, now, holder, taken, there, removed⟩)

end

/-! ## Through a run -/

section
variable {limit : Timespan} {surroundings : σ} {past more : List (Step (System σ κ) (Move σ κ))}
  {base sys : System σ κ} {e e' : Step (System σ κ) (Move σ κ)} {a b : ActivityId} {s : SubscriptionId}
  {sub : Subscription σ κ} {stage : Stage σ κ} {listener listener' : Listener σ κ} {p : Purpose} {c : ConnectionId}
  {k : Int64} {r r' : RequestId} {late : Bool}

theorem states_concat : states (past ++ [e]) s = states past s ++ ((e.after.subscription? s).map (·.state)).toList := by
  cases there : e.after.subscription? s <;> simp [states, there]

/-- The states of a subscription begin with the first, go on by the ways there are, and end with the one that it
    is in. -/
theorem path_of_past (run : Past step? (System.new limit surroundings) past sys) :
    (∀ state ∈ (states past s).head?, state = .created) ∧
      (states past s).IsChain (Relation.ReflGen SubscriptionState.Next) ∧
      (states past s).getLast? = (sys.subscription? s).map (·.state) := by
  induction run with
  | start => exact ⟨by simp [states], .nil, rfl⟩
  | @step past before after move run taken ih =>
    obtain ⟨first, path, last⟩ := ih
    have sound := sound_of_past run
    rw [states_concat]
    cases found : before.subscription? s with
    | none =>
      have empty : states past s = [] := by simpa [found] using last
      cases there : after.subscription? s with
      | none => simp [empty]
      | some now => simp [empty, (creates_of_step taken found there).1]
    | some sub =>
      obtain ⟨now, there, kind⟩ := progresses_of_step sound taken found
      have next : Relation.ReflGen SubscriptionState.Next sub.state now.state := by
        rcases kind with same | ⟨a, -, progresses⟩
        · exact same ▸ .refl
        · exact .single progresses.next
      have last : (states past s).getLast? = some sub.state := by simpa [found] using last
      have some : states past s ≠ [] := by
        intro empty
        simp [empty] at last
      refine ⟨?_, ?_, by simp [there]⟩
      · rw [List.head?_append_of_ne_nil _ some]
        exact first
      · refine List.isChain_append.mpr ⟨path, by simp [there], ?_⟩
        simpa [last, there] using next

/-- A subscription that has been created is there, and keeps its listener. -/
theorem listener_of_creates (run : Past step? (System.new limit surroundings) past sys) (there : e ∈ past)
    (creates : e.Creates a s listener) : ∃ sub, sys.subscription? s = some sub ∧ sub.listener = listener := by
  obtain ⟨earlier, later, split⟩ := List.append_of_mem there
  obtain ⟨-, -, created, found, -, heard⟩ := creates
  obtain ⟨sub, found, same, -⟩ := listener_since (run.since split) found
  exact ⟨sub, found, same.trans heard⟩

/-- No subscription is created twice. -/
theorem created_once (run : Past step? (System.new limit surroundings) past sys) (there : e ∈ past) (there' : e' ∈ past)
    (creates : e.Creates a s listener) (creates' : e'.Creates b s listener') : a = b := by
  induction run with
  | start => cases there
  | step move run taken ih =>
    rcases List.mem_append.mp there with old | new <;> rcases List.mem_append.mp there' with old' | new'
    · exact ih old old'
    · obtain rfl := List.mem_singleton.mp new'
      obtain ⟨sub, found, -⟩ := listener_of_creates run old creates
      cases found.symm.trans creates'.2.1
    · obtain rfl := List.mem_singleton.mp new
      obtain ⟨sub, found, -⟩ := listener_of_creates run old' creates'
      cases found.symm.trans creates.2.1
    · obtain rfl := List.mem_singleton.mp new
      obtain rfl := List.mem_singleton.mp new'
      obtain ⟨⟨-, own, -⟩, -⟩ := creates
      obtain ⟨⟨-, own', -⟩, -⟩ := creates'
      cases own.symm.trans own'
      rfl

/-- Whoever is about to return a subscription has created it. -/
theorem creates_of_founds (run : Past step? (System.new limit surroundings) past sys) (here : sys.stage? a = some stage)
    (founds : stage.founds? = some s) : ∃ e ∈ past, ∃ listener, e.Creates a s listener := by
  induction run generalizing stage with
  | start => cases here
  | step move run taken ih =>
    rcases founds_of_step taken here founds with ⟨before, here, founds⟩ | ⟨listener, creates⟩
    · obtain ⟨e, there, creates⟩ := ih here founds
      exact ⟨e, List.mem_append_left _ there, creates⟩
    · exact ⟨_, List.mem_concat_self, listener, creates⟩

/-- Whoever waits for a registration waits on, as long as it neither gives up nor finds the response there. -/
theorem awaits_on_since (goesOn : Past step? base more sys)
    (here : base.stage? a = some (.awaitRegistration s p c k r late))
    (waits : ∀ e ∈ more, (∀ fault, ¬ e.Abandons a s p c k r fault) ∧ ¬ e.Gets a s p c k r) :
    ∃ late, sys.stage? a = some (.awaitRegistration s p c k r late) := by
  induction goesOn with
  | start => exact ⟨late, here⟩
  | step move _ taken ih =>
    obtain ⟨waited, patient, silent⟩ := forall_mem_concat.mp waits
    obtain ⟨late, here⟩ := ih waited
    exact awaits_on_of_step here taken patient silent

/-- Somebody waits for the response to a request for a registration that is under way, and has the lock. -/
theorem awaits_of_inFlight (run : Past step? (System.new limit surroundings) past sys) (flying : InFlight past s r) :
    ∃ a p c k late sub, sys.stage? a = some (.awaitRegistration s p c k r late) ∧ sys.subscription? s = some sub ∧
      sub.holder = some a ∧ sub.Installing (s ∈ sys.table) p := by
  obtain ⟨made, there, a, p, c, k, ⟨⟨m, own, here⟩, rfl⟩, waits⟩ := flying
  obtain ⟨earlier, later, rfl⟩ := List.append_of_mem there
  obtain ⟨upto, taken⟩ := run.upto rfl
  rw [own] at taken
  have asked := (step_addRoute here taken).2.2
  obtain ⟨late, here⟩ := awaits_on_since (run.since rfl) asked fun e there => waits e (by simp [there])
  have sound := sound_of_past run
  obtain ⟨sub, found⟩ := subscription?_of_lt (sound.about a _ s here rfl)
  obtain ⟨has, installing⟩ := (sound.kept s sub found).has here rfl (by simp)
  exact ⟨a, p, c, k, late, sub, here, found, has, installing⟩

/-- No two requests for registrations of a subscription are under way at a time. -/
theorem inFlight_unique (run : Past step? (System.new limit surroundings) past sys) (flying : InFlight past s r)
    (flying' : InFlight past s r') : r = r' := by
  obtain ⟨a, p, c, k, late, sub, here, found, has, -⟩ := awaits_of_inFlight run flying
  obtain ⟨b, p', c', k', late', sub', here', found', has', -⟩ := awaits_of_inFlight run flying'
  obtain rfl := Option.some.inj (found.symm.trans found')
  obtain rfl := Option.some.inj (has.symm.trans has')
  cases here.symm.trans here'
  rfl

/-- A request that has been made is under way as long as it is not answered, unless it is given up. -/
theorem inFlight_of_unanswered (run : Past step? (System.new limit surroundings) past sys) (there : e ∈ past)
    (made : e.Requests a s p c k r) (unanswered : sys.reply? r = none)
    (patient : ∀ e ∈ past, ∀ fault, ¬ e.Abandons a s p c k r fault) : InFlight past s r := by
  refine ⟨e, there, a, p, c, k, made, fun got there => ⟨patient got there, ?_⟩⟩
  rintro ⟨late, reply, -, -, replied⟩
  obtain ⟨earlier, later, split⟩ := List.append_of_mem there
  have replied := reply?_since (run.since split) (reply?_lasts (run.upto split).2 replied)
  cases unanswered.symm.trans replied

/-- How a subscription lives. -/
structure Lives (past : List (Step (System σ κ) (Move σ κ))) (sys : System σ κ) (s : SubscriptionId) : Prop where
  /-- Its states begin with the first, go on by the ways there are, and end with the one that it is in. -/
  first : ∀ state ∈ (states past s).head?, state = .created
  path : (states past s).IsChain (Relation.ReflGen SubscriptionState.Next)
  last : (states past s).getLast? = (sys.subscription? s).map (·.state)
  /-- Some call creates it, for its listener. -/
  created : ∀ e ∈ past, ∀ now, e.before.subscription? s = none → e.after.subscription? s = some now →
    ∃ a, e.Creates a s now.listener
  /-- Only whoever has its lock changes its state. -/
  changed : ∀ e ∈ past, ∀ sub now, e.before.subscription? s = some sub → e.after.subscription? s = some now →
    now.state ≠ sub.state → ∃ a, e.move = .proceed a ∧ sub.Progresses now a
  /-- While a request for its registration is under way, it is being registered by whoever has the lock. -/
  registering : ∀ r, InFlight past s r → ∃ sub, sys.subscription? s = some sub ∧
    (sub.state = .installing ∨ sub.state = .reinstalling) ∧
    ∃ a p c k late, sub.holder = some a ∧ sys.stage? a = some (.awaitRegistration s p c k r late)
  /-- No two of these are under way at a time. -/
  single : ∀ r r', InFlight past s r → InFlight past s r' → r = r'
  /-- A request that has been made is under way at least until it is answered, unless it is given up. -/
  pending : ∀ e ∈ past, ∀ a p c k r, e.Requests a s p c k r → sys.reply? r = none →
    (∀ e ∈ past, ∀ fault, ¬ e.Abandons a s p c k r fault) → InFlight past s r
  /-- The id that a call returns is that of the subscription that the call has created for its listener. No other
      call returns it, and it means that subscription until it is removed. -/
  named : ∀ a, sys.outcome? a = some (.subscribed (.ok s)) → ∃ sub, sys.subscription? s = some sub ∧
    (∃ e ∈ past, e.Creates a s sub.listener) ∧ sys.Names s sub ∧
    ∀ b, sys.outcome? b = some (.subscribed (.ok s)) → b = a

theorem lives_of_past (run : Past step? (System.new limit surroundings) past sys) (s : SubscriptionId) :
    Lives past sys s := by
  have sound := sound_of_past run
  obtain ⟨first, path, last⟩ := path_of_past (s := s) run
  refine ⟨first, path, last, ?_, ?_, ?_, fun r r' => inFlight_unique run, ?_, ?_⟩
  · intro e there now new found
    obtain ⟨earlier, upto, taken⟩ := run.mem there
    exact (creates_of_step taken new found).2
  · intro e there sub now found found' other
    obtain ⟨earlier, upto, taken⟩ := run.mem there
    obtain ⟨now', found'', kind⟩ := progresses_of_step (sound_of_past upto) taken found
    obtain rfl := Option.some.inj (found'.symm.trans found'')
    exact kind.resolve_left other
  · intro r flying
    obtain ⟨a, p, c, k, late, sub, here, found, has, installing⟩ := awaits_of_inFlight run flying
    refine ⟨sub, found, ?_, a, p, c, k, late, has, here⟩
    cases p with
    | first => exact .inl installing.1
    | again => exact .inr installing.1
  · exact fun e there a p c k r made unanswered patient => inFlight_of_unanswered run there made unanswered patient
  · intro a returned
    obtain ⟨e, there, listener, creates⟩ := creates_of_founds run (outcome?_eq_some.mp returned) rfl
    obtain ⟨sub, found, rfl⟩ := listener_of_creates run there creates
    -- whoever else had it to return would have created it, too
    have alone {b stage} (here : sys.stage? b = some stage) (founds : stage.founds? = some s) : b = a := by
      obtain ⟨e', there', listener', creates'⟩ := creates_of_founds run here founds
      exact created_once run there' there creates' creates
    have single (b) (returned' : sys.outcome? b = some (.subscribed (.ok s))) : b = a :=
      alone (outcome?_eq_some.mp returned') rfl
    refine ⟨sub, found, ⟨e, there, creates⟩, sound.names found ?_, single⟩
    intro b token
    constructor
    · intro here
      obtain rfl := alone here rfl
      cases here.symm.trans (outcome?_eq_some.mp returned)
    · intro here
      obtain rfl := alone here rfl
      cases here.symm.trans (outcome?_eq_some.mp returned)

end
/-- A subscription is registered, lost and registered again in the second attempt, and then removed. -/
def lifetime : List (Move Unit Unit) :=
  [.use (some 0), .begin (.subscribe tally none), .proceed 0, .proceed 0, .proceed 0, .proceed 0, .send 0,
    .answer 0 (.ok tallied), .proceed 0, .begin (.react (.connected 1)), .proceed 1, .proceed 2, .proceed 2, .proceed 2,
    .send 1, .answer 1 (.error .cancelled), .proceed 2, .proceed 2, .begin (.react (.connected 1)), .proceed 3,
    .proceed 4, .proceed 4, .send 2, .answer 2 (.ok tallied), .proceed 4, .begin (.unsubscribe 0 none), .proceed 5,
    .proceed 5, .proceed 5, .proceed 5, .send 3, .answer 3 (.ok tallied), .proceed 5]

/-- Whether an activity has returned a subscription. -/
def gave (sys : System Unit Unit) (a : ActivityId) (s : SubscriptionId) : Bool :=
  match sys.outcome? a with
  | some (.subscribed (.ok t)) => t == s
  | _ => false

theorem outcome?_of_gave {sys : System Unit Unit} {a : ActivityId} {s : SubscriptionId} (gave : gave sys a s = true) :
    sys.outcome? a = some (.subscribed (.ok s)) := by
  unfold System.gave at gave
  split at gave
  · next t here => rw [here, eq_of_beq gave]
  · cases gave

theorem removed_subscription_has_lived : ∃ (past : _) (sys : System Unit Unit),
    Past step? (System.new (.ofSeconds 60) ()) past sys ∧
      sys.notices = [.failed 0 Fault.cancelled.message, .reinstalled 0 1, .removed 0] ∧
      sys.outcome? 0 = some (.subscribed (.ok 0)) ∧ Lives past sys 0 := by
  have done : (lifetime.foldlM step? (System.new (.ofSeconds 60) ())).any fun sys =>
      sys.notices == [.failed 0 Fault.cancelled.message, .reinstalled 0 1, .removed 0] && gave sys 0 0 := by
    decide +kernel
  rw [Option.any_eq_true] at done
  obtain ⟨sys, done, facts⟩ := done
  simp only [Bool.and_eq_true, beq_iff_eq] at facts
  obtain ⟨noticed, gave⟩ := facts
  obtain ⟨past, run, -⟩ := Past.of_moves done
  exact ⟨past, sys, run, noticed, outcome?_of_gave gave, lives_of_past run 0⟩

end System
end Datagrid
