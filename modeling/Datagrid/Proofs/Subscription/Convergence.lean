import Datagrid.Proofs.Subscription.Link
import Datagrid.Proofs.Subscription.Routing

/-!
Convergence: once the listener has heard all reports and nothing is under way, every
subscription that counts is registered on the connection for new requests, with one route
there, or has failed and has neither. A subscription that was made while the connection
changed is no exception.
-/
namespace Datagrid

variable {σ κ : Type}

/-- A stage of an activity that is over, that has heard all there is to hear, that hands
    events over, or that only clears up after another. -/
def Stage.pauses : Stage σ κ → Bool
  | release _ _ _ | released _ => true
  | stage => stage.rests

/-- A step in which a connection turns out to be lost. -/
def Step.Loses (e : Step (System σ κ) (Move σ κ)) (c : ConnectionId) : Prop :=
  ∃ a, e.Turns a (.react (.disconnected c))

namespace System

/-- What has become of a subscription that counts. -/
inductive Landed (sys : System σ κ) (c : ConnectionId) (s : SubscriptionId) (sub : Subscription σ κ) : Prop where
  | failed : sub.state = .failed → sub.registration = .none → (∀ k d, sys.route? k ≠ some ⟨s, d⟩) →
      Landed sys c s sub
  | active {id : Uuid} {k : Int64} : sub.state = .active → sub.registration = ⟨some c, some id, some k⟩ →
      (∀ k' d, sys.route? k' = some ⟨s, d⟩ ↔ k' = k ∧ d = c) → Landed sys c s sub

/-! ## Where a route has to be -/

/-- A subscription is registered on a connection with a correlation id, or waits for that. -/
def Rooted (sys : System σ κ) (s : SubscriptionId) (c : ConnectionId) (k : Int64) : Prop :=
  (∃ sub id, sys.subscription? s = some sub ∧ sub.registration = ⟨some c, some id, some k⟩) ∨
    ∃ a p r late, sys.stage? a = some (.awaitRegistration s p c k r late)

section
variable {sys next : System σ κ} {s : SubscriptionId} {c : ConnectionId} {k : Int64} {move : Move σ κ}

/-- Nobody waits for a registration before its route is made, and nobody is registered without
    having waited. -/
theorem rooted_of_step (taken : sys.step? move = some next) (rooted : next.Rooted s c k) :
    sys.Rooted s c k ∨ Step.Adds ⟨sys, move, next⟩ s c k := by
  rcases rooted with ⟨now, id, found', registered⟩ | ⟨a, p, r, late, there⟩
  · rcases registered_of_step taken found' registered with ⟨sub, found, before⟩ | ⟨a, p, r, late, rfl, here⟩
    · exact .inl (.inl ⟨sub, id, found, before⟩)
    · exact .inl (.inr ⟨a, p, r, late, here⟩)
  · rcases stage?_of_step taken there with
      ⟨stage, change, rfl, here, rfl, later, kind⟩ | ⟨-, stage, here, drift⟩ | ⟨-, begins⟩
    · rcases kind with ⟨t, sub, about, -, turn⟩ | ⟨-, errand⟩
      · cases turn with
        | addRoute p c k m =>
          cases later
          exact .inr ⟨a, p, m, rfl, here⟩
        | _ => cases later
      · cases errand <;> cases later
    · cases drift with
      | same => exact .inl (.inr ⟨a, p, r, late, here⟩)
      | lateRegistration => exact .inl (.inr ⟨a, p, r, _, here⟩)
    · generalize same : Stage.awaitRegistration s p c k r late = stage at begins
      cases begins with
      | asked beginning => cases beginning <;> cases same
      | _ => cases same

/-- The route of a registration that is there or is waited for ends only where its connection turns
    out to be lost. -/
theorem loses_of_ends (apart : sys.Apart) (sound : sys.Sound) (rooted : sys.Rooted s c k)
    (ended : Step.Ends ⟨sys, move, next⟩ s c k) : Step.Loses ⟨sys, move, next⟩ c := by
  obtain ⟨a, stage, ⟨own, here⟩, ends⟩ := ended
  have here : sys.stage? a = some stage := here
  have unminded (minds : stage.minds? = some (s, k)) (waits : ∀ p c r late, stage ≠ .awaitRegistration s p c k r late) :
      False := by
    rcases rooted with ⟨sub, id, found, registered⟩ | ⟨b, p, r, late, there⟩
    · have unrouted := ((sound.kept s sub found).unrouted here minds).2
      simp [registered] at unrouted
    · obtain rfl := apart.alone sound here minds there rfl
      exact waits p c r late (Option.some.inj (here.symm.trans there))
  cases ends with
  | disconnected => exact ⟨a, own, here⟩
  | undone | reinstalled | unsubscribed => exact (unminded rfl (by simp)).elim

/-- Nobody ends the route of a registration that is there or is waited for, as long as the
    connection is not reported to be lost. -/
theorem not_ends_of_rooted (apart : sys.Apart) (sound : sys.Sound) (rooted : sys.Rooted s c k)
    (open' : ∀ a, sys.stage? a ≠ some (.react (.disconnected c))) : ¬ Step.Ends ⟨sys, move, next⟩ s c k := by
  intro ended
  obtain ⟨a, -, here⟩ := loses_of_ends apart sound rooted ended
  exact open' a here

end
end System

namespace Link

/-- A link on which nothing is under way. -/
structure Still (link : Link σ κ) : Prop where
  pauses : ∀ a stage, link.system.stage? a = some stage → stage.pauses = true
  reported : link.due = []

section
variable {limit : Timespan} {surroundings : σ} {current : Option ConnectionId} {past : List (Step (Link σ κ) (Act σ κ))}
  {link next : Link σ κ} {act : Act σ κ} {s : SubscriptionId} {sub : Subscription σ κ} {c : ConnectionId} {k : Int64}

theorem apart_of_past (run : Past step? (start limit surroundings current) past link)
    (few : link.system.correlations < 2 ^ 64) : link.system.Apart := by
  obtain ⟨past, run⟩ := system_of_past run
  exact System.apart_of_past run few

theorem Happens.correlations_le (happens : link.Happens act next) :
    link.system.correlations ≤ next.system.correlations := by
  rcases happens.system with same | ⟨move, moved, -⟩
  · rw [same]
  · exact System.correlations_le_of_step moved

theorem Happens.lost_subset (happens : link.Happens act next) (lost : c ∈ link.lost) : c ∈ next.lost := by
  cases happens with
  | lose d => exact List.mem_cons_of_mem _ lost
  | _ => exact lost

/-- A registration that is there or is waited for has its route, for as long as its connection
    is not lost. -/
theorem routed_of_past (run : Past step? (start limit surroundings current) past link)
    (few : link.system.correlations < 2 ^ 64) (open' : c ∉ link.lost) (rooted : link.system.Rooted s c k) :
    (k, ⟨s, c⟩) ∈ link.system.routes := by
  induction run with
  | start => rcases rooted with ⟨sub, id, found, -⟩ | ⟨a, p, r, late, here⟩ <;> cases ‹_ = some _›
  | @step past now next act run taken ih =>
    have happens := happens_of_step taken
    have few' := Nat.lt_of_le_of_lt happens.correlations_le few
    have before := ih few' fun lost => open' (happens.lost_subset lost)
    rcases happens.system with same | ⟨move, moved, -⟩
    · rw [same] at rooted ⊢
      exact before rooted
    · have apart := apart_of_past run few'
      have sound := sound_of_past run
      obtain ⟨unmourned, -⟩ := (orderly_of_past run).mourned c fun lost => open' (happens.lost_subset lost)
      refine (System.mem_routes_of_step apart sound moved).mpr ?_
      rcases System.rooted_of_step moved rooted with rooted | adds
      · exact .inr ⟨before rooted, System.not_ends_of_rooted apart sound rooted unmourned⟩
      · exact .inl adds

/-! ## Where nothing is under way -/

theorem Still.not_hears (still : link.Still) : ¬ link.system.Hears c s := by
  rintro (⟨here, told⟩ | here | here | here)
  · have rests := still.pauses _ _ here
    simp only [Stage.pauses, Stage.rests, Bool.and_eq_true, List.isEmpty_iff, Bool.not_eq_true'] at rests
    simp [rests] at told
  · cases still.pauses _ _ here
  · cases still.pauses _ _ here
  · cases still.pauses _ _ here

theorem Still.not_waits (still : link.Still) (orderly : link.Orderly) : ¬ (c ∈ link.unheard ∨ link.Lags) := by
  unfold unheard Lags
  rw [still.reported, List.append_nil]
  cases listener : link.listener with
  | none => simp [Feed.opened, Feed.new]
  | some a =>
    obtain ⟨feed, child, here, -⟩ := orderly.serial.listens a listener
    have rests := still.pauses _ _ here
    simp only [Stage.pauses, Stage.rests, Bool.and_eq_true, List.isEmpty_iff, Bool.not_eq_true'] at rests
    simp [System.feed_of_listen here, Feed.opened, rests]

theorem Still.not_engages (still : link.Still) {a : ActivityId} {stage : Stage σ κ}
    (here : link.system.stage? a = some stage) : stage.engages? = none := by
  have pauses := still.pauses a stage here
  cases stage <;> first | rfl | cases pauses

theorem Still.settled (still : link.Still) (sound : link.system.Sound) (found : link.system.subscription? s = some sub) :
    sub.Settled (s ∈ link.system.table) := by
  have kept := sound.kept s sub found
  cases holder : sub.holder with
  | none => exact (kept.free holder).2
  | some a =>
    obtain ⟨stage, here, engaged, -⟩ := kept.holder a holder
    simp [still.not_engages here] at engaged

/-- The routes of a subscription are those of its registration. -/
theorem Still.correlation_of_route (still : link.Still) (apart : link.system.Apart)
    (found : link.system.subscription? s = some sub) (there : (k, ⟨s, c⟩) ∈ link.system.routes) :
    sub.registration.correlation = some k := by
  rcases apart.routed k s c there with ⟨sub', found', registered⟩ | ⟨a, stage, here, minds⟩
  · obtain rfl := Option.some.inj (found.symm.trans found')
    exact registered
  · have none := still.not_engages here
    cases stage <;> simp_all [Stage.minds?, Stage.engages?]

/-- Once the listener has heard all reports and nothing is under way, every subscription that
    counts is registered on the connection for new requests, or has failed. -/
theorem landed_of_still (run : Past step? (start limit surroundings current) past link)
    (few : link.system.correlations < 2 ^ 64) (still : link.Still) (now : link.system.current = some c)
    (open' : c ∉ link.lost) :
    ∀ s ∈ link.system.table, ∃ sub, link.system.subscription? s = some sub ∧ link.system.Landed c s sub := by
  intro s listed
  have sound := sound_of_past run
  have apart := apart_of_past run few
  have orderly := orderly_of_past run
  obtain ⟨sub, found⟩ := System.subscription?_of_lt (sound.listed s listed)
  refine ⟨sub, found, ?_⟩
  have near : ¬ link.system.Astray c s := by
    rcases (converges_of_past run now).told with waits | follows
    · exact absurd waits (still.not_waits orderly)
    · exact fun astray => still.not_hears (follows.reminded s astray)
  cases still.settled sound found with
  | @active d id k state _ _ registered =>
    have own : d = c := by
      by_contra other
      exact near (.inl ⟨sub, d, k, found, by simp [registered], by simp [registered], other⟩)
    subst own
    have there := routed_of_past run few open' (.inl ⟨sub, id, found, registered⟩)
    refine .active state registered ?_
    intro k' d'
    rw [System.route?_eq_some apart]
    constructor
    · intro other
      have same := still.correlation_of_route apart found other
      rw [registered] at same
      obtain rfl := Option.some.inj same
      have routes := ((System.route?_eq_some apart).mpr other).symm.trans ((System.route?_eq_some apart).mpr there)
      cases routes
      exact ⟨rfl, rfl⟩
    · rintro ⟨rfl, rfl⟩
      exact there
  | failed state _ _ unregistered =>
    refine .failed state unregistered ?_
    intro k d routed
    have same := still.correlation_of_route apart found ((System.route?_eq_some apart).mp routed)
    simp [unregistered, Registration.none] at same
  | removed _ absent => exact absurd listed absent

end

/-! ## A race -/

/-- A subscription is being made on the first connection while the second takes its place. -/
def race : List (Act Unit Unit) :=
  [.listen 4, .use 0, .report, .own (.proceed 0), .own (.proceed 1), .own (.proceed 1), .own (.proceed 0),
    .own (.begin (.subscribe System.tally none)), .own (.proceed 2), .own (.proceed 2), .own (.proceed 2),
    .lose 0, .use 1, .mourn 0, .report, .own (.proceed 2), .own (.proceed 0), .own (.proceed 3), .own (.proceed 0),
    .own (.proceed 0), .own (.proceed 4), .own (.proceed 5), .own (.send 0), .own (.answer 0 (.ok System.tallied)),
    .own (.proceed 2), .own (.proceed 5), .own (.proceed 5), .own (.proceed 5), .own (.send 1),
    .own (.answer 1 (.ok System.tallied)), .own (.proceed 5), .own (.proceed 4), .own (.proceed 0)]

theorem racing_subscription_lands : ∃ (past : _) (link : Link Unit Unit),
    Past step? (start (.ofSeconds 60) () none) past link ∧ link.system.correlations < 2 ^ 64 ∧ link.Still ∧
      link.system.current = some 1 ∧ 1 ∉ link.lost ∧ 0 ∈ link.system.table ∧
      (∃ sub, link.system.subscription? 0 = some sub ∧ sub.state = .active) ∧
      ∀ s ∈ link.system.table, ∃ sub, link.system.subscription? s = some sub ∧ link.system.Landed 1 s sub := by
  have done : (race.foldlM step? (start (.ofSeconds 60) () none)).any fun link =>
      link.system.correlations == 2 && link.system.activities.all Stage.pauses && link.due.isEmpty &&
        link.system.current == some 1 && !link.lost.contains 1 && link.system.table.contains 0 &&
        (link.system.subscription? 0).any (·.state == .active) := by
    decide +kernel
  rw [Option.any_eq_true] at done
  obtain ⟨link, done, facts⟩ := done
  simp only [Bool.and_eq_true, beq_iff_eq, List.isEmpty_iff, Bool.not_eq_true', List.contains_eq_mem,
    decide_eq_true_eq, decide_eq_false_iff_not, Option.any_eq_true] at facts
  obtain ⟨⟨⟨⟨⟨⟨used, pauses⟩, reported⟩, now⟩, open'⟩, listed⟩, active⟩ := facts
  obtain ⟨past, run, -⟩ := Past.of_moves done
  have few : link.system.correlations < 2 ^ 64 := by omega
  have still : link.Still :=
    ⟨fun a stage here => List.all_eq_true.mp pauses stage (List.mem_of_getElem? here), reported⟩
  exact ⟨past, link, run, few, still, now, open', listed, active, landed_of_still run few still now open'⟩

end Link
end Datagrid
