import Datagrid.Proofs.Subscription.Convergence

/-!
Delivery: what it means for a subscription to be active. While nobody has its lock, an active
subscription is registered on a connection, and it is handed the events of that registration
until the connection turns out to be lost. From then on there is no route, and yet the
subscription stays active until it is registered again: the loss of a connection drops the routes
and asks for no subscription. The registration may even come after the loss.
-/
namespace Datagrid

variable {σ κ : Type}

namespace System

/-- What becomes of an event if nothing else happens: it begins, is looked up, and is handed to the
    listener of a subscription. -/
def Dispatches (sys : System σ κ) (s : SubscriptionId) (c : ConnectionId) (m : Message) : Prop :=
  let b := sys.activities.length
  ∃ found next, [Move.begin (.event c m), .proceed b, .proceed b].foldlM step? sys = some found ∧
    found.step? (.proceed b) = some next ∧ Step.Hands ⟨found, .proceed b, next⟩ b s m

section
variable {sys : System σ κ} {s : SubscriptionId} {sub : Subscription σ κ} {c : ConnectionId} {k : Int64} {m : Message}

/-- The event has been counted, and is about to be looked up. -/
theorem lookup_of_event (sys : System σ κ) (c : ConnectionId) (read : m.correlation = .ok k) :
    ∃ before, [Move.begin (.event c m), .proceed sys.activities.length].foldlM step? sys = some before ∧
      before.stage? sys.activities.length = some (.route c k m) ∧ before.routes = sys.routes ∧
      before.table = sys.table ∧ before.subscriptions = sys.subscriptions ∧
      before.surroundings = sys.surroundings := by
  refine ⟨((sys.begin (.event c m)).2.count .message).become sys.activities.length (.route c k m), ?_, ?_, rfl, rfl,
    rfl, rfl⟩
  · simp [step?, Beginning.stage, begin, proceed, stage?, Stage.subscription?, proceedAlone, count, read]
  · simp [stage?, become, count, begin]

/-- An event is handed over if it finds the route of a subscription that still counts, and only then. -/
theorem dispatches_iff (found : sys.subscription? s = some sub) (read : m.correlation = .ok k) :
    sys.Dispatches s c m ↔ sys.route? k = some ⟨s, c⟩ ∧ s ∈ sys.table ∧ sub.state ≠ .removed := by
  obtain ⟨before, reached, here, routes, table, subscriptions, -⟩ := lookup_of_event sys c read
  have looks (after : System σ κ) :
      [Move.begin (.event c m), .proceed sys.activities.length, .proceed sys.activities.length].foldlM step? sys =
        some after ↔ before.step? (.proceed sys.activities.length) = some after := by
    rw [show [Move.begin (.event c m), .proceed sys.activities.length, .proceed sys.activities.length] =
      [Move.begin (.event c m), .proceed sys.activities.length] ++ [.proceed sys.activities.length] from rfl,
      List.foldlM_append, reached]
    simp
  have same : before.route? k = sys.route? k := by rw [route?, routes, route?]
  constructor
  · rintro ⟨after, next, looked, taken, hands⟩
    obtain ⟨stage, change, here', rfl, ⟨t, _, about, -⟩ | ⟨-, errand⟩⟩ := after_of_proceed ((looks after).mp looked)
    · obtain rfl := Option.some.inj (here.symm.trans here')
      cases about
    obtain rfl := Option.some.inj (here.symm.trans here')
    have there := hands.1.2
    cases errand with
    | unrouted =>
      cases (stage?_after_self here).symm.trans there
    | routed _ routed =>
      cases (stage?_after_self here).symm.trans there
      have found' : (before.after sys.activities.length (before.moving (.deliver s m))).subscription? s = some sub := by
        simpa [subscription?, subscriptions] using found
      obtain ⟨next', taken', handed, -⟩ := step_deliver there found'
      obtain rfl := Option.some.inj (taken.symm.trans taken')
      obtain ⟨listed, live⟩ := handed.mp hands
      exact ⟨same ▸ routed, by simpa [table] using listed, live⟩
  · rintro ⟨routed, listed, live⟩
    have looked : before.step? (.proceed sys.activities.length) =
        some (before.become sys.activities.length (.deliver s m)) := by
      simp [step?, proceed, here, Stage.subscription?, proceedAlone, same, routed]
    have there : (before.become sys.activities.length (.deliver s m)).stage? sys.activities.length =
        some (.deliver s m) := by
      simp [stage?, become, lt_of_stage? here]
    have found' : (before.become sys.activities.length (.deliver s m)).subscription? s = some sub := by
      simpa [become, subscription?, subscriptions] using found
    obtain ⟨next, taken, handed, -⟩ := step_deliver there found'
    exact ⟨_, next, (looks _).mpr looked, taken, handed.mpr ⟨by simpa [become, table] using listed, live⟩⟩

end

section
variable {limit : Timespan} {surroundings : σ} {past : List (Step (System σ κ) (Move σ κ))} {sys : System σ κ}
  {s : SubscriptionId} {sub : Subscription σ κ} {c : ConnectionId} {k : Int64}

/-- The route of a registration that is there or is waited for has been made, and is there until the
    connection turns out to be lost. -/
theorem routed_unless_lost (run : Past step? (System.new limit surroundings) past sys)
    (few : sys.correlations < 2 ^ 64) (rooted : sys.Rooted s c k) :
    ∃ earlier adding later, past = earlier ++ adding :: later ∧ adding.Adds s c k ∧
      ((k, ⟨s, c⟩) ∈ sys.routes ↔ ∀ e ∈ later, ¬ e.Loses c) := by
  induction run with
  | start => rcases rooted with ⟨sub, id, found, -⟩ | ⟨a, p, r, late, here⟩ <;> cases ‹_ = some _›
  | @step past now next move run taken ih =>
    have few' := Nat.lt_of_le_of_lt (correlations_le_of_step taken) few
    have apart := apart_of_past run few'
    have sound := sound_of_past run
    by_cases adds : Step.Adds ⟨now, move, next⟩ s c k
    · have there := (mem_routes_of_step apart sound taken).mpr (.inl adds)
      exact ⟨past, _, [], rfl, adds, by simpa using there⟩
    · have before := (rooted_of_step taken rooted).resolve_right adds
      obtain ⟨earlier, adding, later, rfl, added, lasts⟩ := ih few' before
      refine ⟨earlier, adding, later ++ [⟨now, move, next⟩], by simp, added, ?_⟩
      have ends : Step.Ends ⟨now, move, next⟩ s c k ↔ Step.Loses ⟨now, move, next⟩ c := by
        refine ⟨loses_of_ends apart sound before, ?_⟩
        rintro ⟨a, turns⟩
        exact ⟨a, _, turns, .disconnected⟩
      rw [mem_routes_of_step apart sound taken, or_iff_right adds, lasts, ends, forall_mem_concat]

/-- What it means for a subscription that nobody is changing to be active. -/
structure Delivered (past : List (Step (System σ κ) (Move σ κ))) (sys : System σ κ) (s : SubscriptionId)
    (sub : Subscription σ κ) (c : ConnectionId) (id : Uuid) (k : Int64) : Prop where
  registered : sub.registration = ⟨some c, some id, some k⟩
  listed : s ∈ sys.table
  /-- Its route has been made. Since then the connection may have turned out to be lost: if so, there
      is no route, and if not, there is one. Events of the registration are handed over accordingly. -/
  routed : ∃ earlier adding later, past = earlier ++ adding :: later ∧ adding.Adds s c k ∧
    (sys.route? k = some ⟨s, c⟩ ↔ ∀ e ∈ later, ¬ e.Loses c) ∧
    ∀ m, m.correlation = .ok k → (sys.Dispatches s c m ↔ ∀ e ∈ later, ¬ e.Loses c)

/-- An active subscription that nobody is changing is handed the events of its registration exactly
    as long as its connection has not turned out to be lost. -/
theorem delivered_unless_lost (run : Past step? (System.new limit surroundings) past sys)
    (few : sys.correlations < 2 ^ 64) (found : sys.subscription? s = some sub) (free : sub.holder = none)
    (active : sub.state = .active) : ∃ c id k, sys.Delivered past s sub c id k := by
  have kept := (sound_of_past run).kept s sub found
  cases (kept.free free).2 with
  | @active c id k _ listed _ registered =>
    refine ⟨c, id, k, registered, listed, ?_⟩
    obtain ⟨earlier, adding, later, split, adds, lasts⟩ :=
      routed_unless_lost run few (.inl ⟨sub, id, found, registered⟩)
    rw [← route?_eq_some (apart_of_past run few)] at lasts
    refine ⟨earlier, adding, later, split, adds, lasts, fun m read => ?_⟩
    rw [dispatches_iff found read, lasts]
    exact and_iff_left ⟨listed, by simp [active]⟩
  | failed state => cases active.symm.trans state
  | removed state => cases active.symm.trans state

end

/-- A subscription is registered on the first connection. -/
def settlement : List (Move Unit Unit) :=
  [.use (some 0), .begin (.subscribe tally none), .proceed 0, .proceed 0, .proceed 0, .proceed 0, .send 0,
    .answer 0 (.ok tallied), .proceed 0]

/-- Whether the first subscription is active on the first connection and its lock free. -/
def isSettled (sys : System Unit Unit) : Bool :=
  sys.correlations == 1 && (sys.subscription? 0).any fun sub =>
    sub.holder == none && sub.state == .active && sub.registration == ⟨some 0, some ⟨0, 1⟩, some 1⟩

private theorem settled_of_isSettled {sys : System Unit Unit} (settled : isSettled sys = true) :
    sys.correlations < 2 ^ 64 ∧ ∃ sub, sys.subscription? 0 = some sub ∧ sub.holder = none ∧ sub.state = .active ∧
      sub.registration = ⟨some 0, some ⟨0, 1⟩, some 1⟩ := by
  simp only [isSettled, Bool.and_eq_true, beq_iff_eq, Option.any_eq_true] at settled
  obtain ⟨used, sub, found, ⟨free, active⟩, registered⟩ := settled
  exact ⟨by omega, sub, found, free, active, registered⟩

theorem settled_subscription_is_delivered : ∃ (past : _) (sys : System Unit Unit) (sub : _),
    Past step? (System.new (.ofSeconds 60) ()) past sys ∧ sys.correlations < 2 ^ 64 ∧ sys.subscription? 0 = some sub ∧
      sub.holder = none ∧ sub.state = .active ∧ ∃ c id k, sys.Delivered past 0 sub c id k := by
  have done : (settlement.foldlM step? (System.new (.ofSeconds 60) ())).any isSettled := by decide +kernel
  rw [Option.any_eq_true] at done
  obtain ⟨sys, done, settled⟩ := done
  obtain ⟨few, sub, found, free, active, -⟩ := settled_of_isSettled settled
  obtain ⟨past, run, -⟩ := Past.of_moves done
  exact ⟨past, sys, sub, run, few, found, free, active, delivered_unless_lost run few found free active⟩

/-- The first connection turns out to be lost. -/
def loss : List (Move Unit Unit) := [.begin (.react (.disconnected 0)), .proceed 1]

/-- The connection of a subscription is lost, and nothing else happens. The subscription stays active, but has no
    route, and its events are handed to nobody. -/
theorem lost_subscription_stays_active : ∃ (past : _) (sys : System Unit Unit) (sub : _),
    Past step? (System.new (.ofSeconds 60) ()) past sys ∧ sys.correlations < 2 ^ 64 ∧ sys.subscription? 0 = some sub ∧
      sub.holder = none ∧ sub.state = .active ∧ sub.registration = ⟨some 0, some ⟨0, 1⟩, some 1⟩ ∧
      sys.route? 1 = none ∧ tallied.correlation = .ok 1 ∧ ¬ sys.Dispatches 0 0 tallied := by
  have done : ((settlement ++ loss).foldlM step? (System.new (.ofSeconds 60) ())).any fun sys =>
      isSettled sys && (sys.route? 1).isNone := by
    decide +kernel
  rw [Option.any_eq_true] at done
  obtain ⟨sys, done, facts⟩ := done
  simp only [Bool.and_eq_true, Option.isNone_iff_eq_none] at facts
  obtain ⟨settled, unrouted⟩ := facts
  obtain ⟨few, sub, found, free, active, registered⟩ := settled_of_isSettled settled
  obtain ⟨past, run, -⟩ := Past.of_moves done
  have read : tallied.correlation = .ok 1 := by rfl
  refine ⟨past, sys, sub, run, few, found, free, active, registered, unrouted, read, ?_⟩
  rw [dispatches_iff found read, unrouted]
  simp

end System
end Datagrid
