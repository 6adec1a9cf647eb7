import Datagrid.Proofs.Subscription.Convergence

/-!
Health: how long a subscription stays registered. While the connection of its registration
is the one for new requests, it stays as it is until an activity gets its lock in order to
register it on another connection; and that can only be one of which the listener had yet
to hear, or was hearing, when the subscription was registered.
-/
namespace Datagrid

variable {σ κ : Type}

namespace System

/-- A subscription counts, is registered on a connection, and has its route. -/
structure Healthy (sys : System σ κ) (s : SubscriptionId) (c : ConnectionId) (id : Uuid) (k : Int64) : Prop where
  active : ∃ sub, sys.subscription? s = some sub ∧ sub.state = .active ∧
    sub.registration = ⟨some c, some id, some k⟩
  listed : s ∈ sys.table
  routed : sys.route? k = some ⟨s, c⟩

section
variable {sys next : System σ κ} {a : ActivityId} {s : SubscriptionId} {sub : Subscription σ κ} {stage : Stage σ κ}
  {change : Change σ κ} {c d : ConnectionId} {id : Uuid} {k : Int64} {move : Move σ κ}

/-- A subscription that is active and has a route stays so in every turn, unless an activity gets
    its lock to register it elsewhere, or is about to remove it. -/
theorem Turn.disturbs (turn : Turn sys a s sub stage change) (kept : sys.Kept s sub)
    (found : sys.subscription? s = some sub) (here : sys.stage? a = some stage) (active : sub.state = .active)
    (routed : sub.registration.correlation = some k) :
    (∃ now, change.subscriptions = sys.subscriptions.set s now ∧ now.state = .active ∧
        now.registration = sub.registration) ∨
      (∃ d, Acquires a s sub (.reinstall d) stage ∧ ¬ sub.Spared d) ∨ ∃ token, stage = .unlist s token := by
  have unchanged : sys.subscriptions = sys.subscriptions.set s sub := (set_found found).symm
  -- nobody is making or dropping a route of the subscription
  have unminded {k'} (minds : stage.minds? = some (s, k')) : False := by
    have unrouted := (kept.unrouted here minds).2
    simp [routed] at unrouted
  have other {state : SubscriptionState} (is : sub.state = state) (differs : state ≠ .active) : False :=
    differs (is.symm.trans active)
  have leaving {token table routes} (leaves : Leaves sys s sub token stage table routes) :
      ∃ token, stage = .unlist s token := by
    cases leaves with
    | unrouted => exact ⟨token, rfl⟩
    | dropped => exact (unminded rfl).elim
  have renewing {d renewed routes} (ready : Renews sys a s sub d stage renewed routes) : False := by
    cases ready with
    | unrouted _ _ none => simp [none] at routed
    | dropped => exact unminded rfl
  cases turn with
  | enter | unconnected | list | unready => exact (other (kept.has here rfl (by simp)).2.1 (by simp)).elim
  | addRoute | abandon | refuse | registerFirst | registerAgain | undoFirst | undoAgain => exact (unminded rfl).elim
  | withdraw => exact (other (kept.has here rfl (by simp)).2.1 (by simp)).elim
  | wait | learn => exact .inl ⟨_, rfl, active, rfl⟩
  | tooLate _ removed => exact (other removed (by simp)).elim
  | beginRemoval | skip => exact .inl ⟨_, rfl, active, rfl⟩
  | dropAgain acquires unspared => exact .inr (.inl ⟨_, acquires, unspared⟩)
  | installAgain ready | failAgain ready => exact (renewing ready).elim
  | unlist token => exact .inr (.inr ⟨token, rfl⟩)
  | removeUnregistered leaves | removeUnsaid leaves | remove leaves => exact .inr (.inr (leaving leaves))
  | learnDropped => exact (unminded rfl).elim
  | interrupted | answered => exact (other (kept.has here rfl (by simp)).2.1 (by simp)).elim
  | missed | deliver | undeliverable => exact .inl ⟨_, unchanged, active, rfl⟩

/-- An activity gets the lock of a subscription to register it on a connection. -/
def Seizes (sys : System σ κ) (move : Move σ κ) (s : SubscriptionId) (d : ConnectionId) : Prop :=
  ∃ a stage sub, move = .proceed a ∧ sys.stage? a = some stage ∧ sys.subscription? s = some sub ∧
    Acquires a s sub (.reinstall d) stage

/-- An activity is about to remove a subscription: whatever it does next, it takes it out of the table. -/
def Unlists (sys : System σ κ) (move : Move σ κ) (s : SubscriptionId) : Prop :=
  ∃ a token, move = .proceed a ∧ sys.stage? a = some (.unlist s token)

/-- A healthy subscription stays healthy in every step, unless its connection is reported to be
    lost, its lock is taken to register it elsewhere, or it is removed. -/
theorem Healthy.step (healthy : sys.Healthy s c id k) (apart : sys.Apart) (sound : sys.Sound)
    (taken : sys.step? move = some next) (few : next.correlations < 2 ^ 64)
    (open' : ∀ a, sys.stage? a ≠ some (.react (.disconnected c)))
    (unseized : ∀ d, d ≠ c → ¬ sys.Seizes move s d) (stays : ¬ sys.Unlists move s) : next.Healthy s c id k := by
  obtain ⟨⟨sub, found, active, registered⟩, listed, routed⟩ := healthy
  have registered' : ∃ now, next.subscription? s = some now ∧ now.state = .active ∧
      now.registration = ⟨some c, some id, some k⟩ := by
    by_cases turns : ∃ a, move = .proceed a
    · obtain ⟨a, rfl⟩ := turns
      obtain ⟨stage, change, here, rfl, ⟨t, sub', about, found', turn⟩ | ⟨-, errand⟩⟩ := after_of_proceed taken
      · by_cases same : s = t
        · subst same
          obtain rfl := Option.some.inj (found.symm.trans found')
          rcases turn.disturbs (sound.kept s sub found) found here active (by simp [registered] : _ = some k) with
            ⟨now, put, state, same⟩ | ⟨d, acquires, unspared⟩ | ⟨token, rfl⟩
          · exact ⟨now, subscription?_put put found, state, same.trans registered⟩
          · refine absurd ⟨a, stage, sub, rfl, here, found, acquires⟩ (unseized d ?_)
            rintro rfl
            exact unspared (.inr ⟨active, by simp [registered]⟩)
          · exact absurd ⟨a, token, rfl, here⟩ stays
        · obtain ⟨now, put, -⟩ := turn.registration found'
          exact ⟨sub, (subscription?_put_of_ne put same).trans found, active, registered⟩
      · exact ⟨sub, errand.subscription?_after found, active, registered⟩
    · have drifts := drifts_of_step taken fun a same => turns ⟨a, same⟩
      have found : next.subscriptions[s]? = some sub := drifts.subscriptions ▸ found
      exact ⟨sub, found, active, registered⟩
  obtain ⟨now, found', state, same⟩ := registered'
  have rooted : sys.Rooted s c k := .inl ⟨sub, id, found, registered⟩
  refine ⟨⟨now, found', state, same⟩, ?_, ?_⟩
  · exact mem_table_of_routed (sound.step taken) found' (by simp [same] : _ = some k)
  · rw [route?_eq_some (apart.step sound taken few)]
    refine (mem_routes_of_step apart sound taken).mpr (.inr ⟨?_, ?_⟩)
    · exact (route?_eq_some apart).mp routed
    · exact not_ends_of_rooted apart sound rooted open'

/-- Whoever gets the lock of a healthy subscription to register it elsewhere parts it from its
    route at once. -/
theorem Healthy.ends (healthy : sys.Healthy s c id k) (taken : sys.step? move = some next) (other : d ≠ c)
    (seizes : sys.Seizes move s d) : ¬ next.Healthy s c id k := by
  obtain ⟨a, stage, sub, rfl, here, found, acquires⟩ := seizes
  obtain ⟨⟨sub', found', active, registered⟩, -, -⟩ := healthy
  obtain rfl := Option.some.inj (found.symm.trans found')
  rintro ⟨⟨now, there, -, same⟩, -, -⟩
  obtain ⟨stage', change, here', rfl, ⟨t, sub', about, found', turn⟩ | ⟨alone, -⟩⟩ := after_of_proceed taken
  · obtain rfl := Option.some.inj (here.symm.trans here')
    obtain rfl : s = t := by cases acquires <;> exact Option.some.inj about
    obtain rfl := Option.some.inj (found.symm.trans found')
    obtain ⟨now', put, kind⟩ := turn.renews acquires
    obtain rfl := Option.some.inj (there.symm.trans (subscription?_put put found))
    rcases kind with ⟨-, removed | ⟨-, own⟩⟩ | unrouted
    · simp [active] at removed
    · rw [registered] at own
      exact other (Option.some.inj own).symm
    · simp [same] at unrouted
  · obtain rfl := Option.some.inj (here.symm.trans here')
    cases acquires <;> cases alone

end
end System

namespace Link

/-- A step in which an activity gets the lock of a subscription to register it on a connection. -/
def Supplants (e : Step (Link σ κ) (Act σ κ)) (s : SubscriptionId) (d : ConnectionId) : Prop :=
  ∃ move, e.move = .own move ∧ e.before.system.Seizes move s d

/-- A step in which a subscription is about to be removed. -/
def Removes (e : Step (Link σ κ) (Act σ κ)) (s : SubscriptionId) : Prop :=
  ∃ move, e.move = .own move ∧ e.before.system.Unlists move s

/-- A connection of which the listener has yet to hear, or on which registrations are being
    made again. -/
def Awaited (link : Link σ κ) (d : ConnectionId) : Prop :=
  d ∈ link.unheard ∨ ∃ a stage, link.system.stage? a = some stage ∧ stage.aims? = some d

/-- How long a subscription stays healthy. -/
structure Endures (base : Link σ κ) (more : List (Step (Link σ κ) (Act σ κ))) (s : SubscriptionId) (c : ConnectionId)
    (id : Uuid) (k : Int64) : Prop where
  /-- It does until an activity gets its lock to register it elsewhere. -/
  lasts : (∀ e ∈ more, e.after.system.Healthy s c id k) ↔ ∀ e ∈ more, ∀ d, d ≠ c → ¬ Supplants e s d
  /-- That is on a connection that was awaited before. -/
  stale : ∀ e ∈ more, ∀ d, d ≠ c → Supplants e s d → base.Awaited d
  /-- It does not come to that once the listener has heard of the connection. -/
  upToDate : c ∉ base.unheard → ¬ base.Lags → ∀ e ∈ more, e.after.system.Healthy s c id k

section
variable {limit : Timespan} {surroundings : σ} {current : Option ConnectionId}
  {past more : List (Step (Link σ κ) (Act σ κ))} {base link next : Link σ κ} {act : Act σ κ} {s : SubscriptionId}
  {c d : ConnectionId} {id : Uuid} {k : Int64}

/-- A step that leaves a connection the one for new requests. -/
def Act.keeps (act : Act σ κ) (c : ConnectionId) : Prop := act ≠ .idle ∧ ∀ d, act = .use d → d = c

theorem current_of_step (happens : link.Happens act next) (now : link.system.current = some c) (keeps : act.keeps c) :
    next.system.current = some c := by
  cases happens with
  | own own moved => rw [System.current_of_step moved (by rintro c rfl; cases own), now]
  | listen _ moved => rw [System.current_of_step moved (by simp), now]
  | @use d system _ moved =>
    obtain rfl : _ = system := Option.some.inj moved
    exact congrArg some (keeps.2 d rfl)
  | idle => exact absurd rfl keeps.1
  | lose => exact now
  | report _ _ moved | mourn _ moved => rw [System.current_of_step moved (by simp), now]

theorem current_of_past (goesOn : Past step? base more link) (now : base.system.current = some c)
    (keeps : ∀ e ∈ more, e.move.keeps c) : link.system.current = some c := by
  induction goesOn with
  | start => exact now
  | step act _ taken ih =>
    obtain ⟨kept, keeps⟩ := forall_mem_concat.mp keeps
    exact current_of_step (happens_of_step taken) (ih kept) keeps

/-- While a connection is the one for new requests, no other comes to be awaited. -/
theorem Awaited.before (orderly : link.Orderly) (happens : link.Happens act next)
    (now : link.system.current = some c) (keeps : act.keeps c) (other : d ≠ c) (awaited : next.Awaited d) :
    link.Awaited d := by
  rcases awaited with there | ⟨a, stage, there, aims⟩
  · left
    rcases orderly.unheard_of_step happens with ⟨-, suffix⟩ | ⟨c', rfl, unheard⟩
    · exact suffix.subset there
    · rw [unheard] at there
      rcases List.mem_append.mp there with old | new
      · exact old
      · obtain rfl := List.mem_singleton.mp new
        exact absurd (keeps.2 d rfl) other
  · rcases happens.system with same | ⟨move, moved, -, unasked⟩
    · exact .inr ⟨a, stage, same ▸ there, aims⟩
    · rcases System.aims_of_step moved there aims with before | rfl | ⟨b, children, -, here, -, -⟩
      · obtain ⟨stage, here, before⟩ := before
        exact .inr ⟨a, stage, here, before⟩
      · rcases System.reacts_of_step moved there with before | ⟨-, asks | ⟨b, feed, rest, -, here, learns, -⟩⟩
        · exact .inr ⟨a, _, before, rfl⟩
        · exact absurd asks (unasked _)
        · cases learns with
          | item took =>
            left
            unfold unheard
            rw [orderly.serial.alone b feed none here, System.feed_of_listen here, Feed.opened_take took]
            simp [ConnectionEvent.opened?]
          | lagged _ current => exact absurd (Option.some.inj (current.symm.trans now)) other
      · exact .inr ⟨b, _, here, rfl⟩

/-- Whatever is awaited after some steps was awaited before them, while a connection is the one
    for new requests. -/
theorem awaited_of_past (run : Past step? (start limit surroundings current) past base)
    (goesOn : Past step? base more link) (now : base.system.current = some c)
    (keeps : ∀ e ∈ more, e.move.keeps c) (other : d ≠ c) (awaited : link.Awaited d) : base.Awaited d := by
  induction goesOn with
  | start => exact awaited
  | @step more mid next act goesOn taken ih =>
    obtain ⟨kept, keeps⟩ := forall_mem_concat.mp keeps
    have current := current_of_past goesOn now kept
    have orderly := orderly_of_past (run.append goesOn)
    exact ih kept (Awaited.before orderly (happens_of_step taken) current keeps other awaited)

/-- A subscription that is healthy after every step is healthy in the end. -/
private theorem healthy_now (goesOn : Past step? base more link) (healthy : base.system.Healthy s c id k)
    (always : ∀ e ∈ more, e.after.system.Healthy s c id k) : link.system.Healthy s c id k := by
  cases goesOn with
  | start => exact healthy
  | @step more mid _ act _ taken => exact always ⟨mid, act, link⟩ List.mem_concat_self

/-- A step of the link that leaves a subscription healthy, or after which it is not. -/
private theorem healthy_iff (run : Past step? (start limit surroundings current) past link)
    (taken : link.step? act = some next) (few : next.system.correlations < 2 ^ 64) (open' : c ∉ next.lost)
    (healthy : link.system.Healthy s c id k) (stays : ¬ Removes ⟨link, act, next⟩ s) :
    next.system.Healthy s c id k ↔ ∀ d, d ≠ c → ¬ Supplants ⟨link, act, next⟩ s d := by
  have happens := happens_of_step taken
  have few' := Nat.lt_of_le_of_lt happens.correlations_le few
  constructor
  · rintro still d other ⟨move, rfl, seizes⟩
    obtain ⟨a, stage, sub, rfl, rest⟩ := seizes
    cases happens with
    | own _ moved => exact healthy.ends moved other ⟨a, stage, sub, rfl, rest⟩ still
  · intro unseized
    rcases happens.system with same | ⟨move, moved, proceeds, -⟩
    · exact same ▸ healthy
    · have sound := sound_of_past run
      obtain ⟨unmourned, -⟩ := (orderly_of_past run).mourned c fun lost => open' (happens.lost_subset lost)
      refine healthy.step (apart_of_past run few') sound moved few unmourned ?_ ?_
      · rintro d other ⟨a, stage, sub, rfl, rest⟩
        exact unseized d other ⟨_, proceeds a rfl, a, stage, sub, rfl, rest⟩
      · rintro ⟨a, token, rfl, here⟩
        exact stays ⟨_, proceeds a rfl, a, token, rfl, here⟩

/-- A subscription lasts as long as nobody supplants it. -/
private theorem lasts_iff (run : Past step? (start limit surroundings current) past base)
    (goesOn : Past step? base more link) (few : link.system.correlations < 2 ^ 64)
    (healthy : base.system.Healthy s c id k) (open' : c ∉ link.lost) (stays : ∀ e ∈ more, ¬ Removes e s) :
    (∀ e ∈ more, e.after.system.Healthy s c id k) ↔ ∀ e ∈ more, ∀ d, d ≠ c → ¬ Supplants e s d := by
  induction goesOn with
  | start => simp
  | @step more mid next act goesOn taken ih =>
    have happens := happens_of_step taken
    obtain ⟨stayed, stays⟩ := forall_mem_concat.mp stays
    have before := ih (Nat.lt_of_le_of_lt happens.correlations_le few)
      (fun lost => open' (happens.lost_subset lost)) stayed
    rw [forall_mem_concat, forall_mem_concat, ← before]
    refine and_congr_right ?_
    intro always
    exact healthy_iff (run.append goesOn) taken few open' (healthy_now goesOn healthy always) stays

/-- A subscription is only supplanted on a connection that was awaited before. -/
private theorem awaited_of_supplants (run : Past step? (start limit surroundings current) past base)
    (goesOn : Past step? base more link) (now : base.system.current = some c) (keeps : ∀ e ∈ more, e.move.keeps c)
    {e : Step (Link σ κ) (Act σ κ)} (there : e ∈ more) (other : d ≠ c) (supplants : Supplants e s d) :
    base.Awaited d := by
  obtain ⟨move, moves, a, stage, sub, -, here, -, acquires⟩ := supplants
  obtain ⟨earlier, later, rfl⟩ := List.append_of_mem there
  obtain ⟨upto, -⟩ := goesOn.upto rfl
  refine awaited_of_past run upto now (fun e there => keeps e (List.mem_append_left _ there)) other ?_
  exact .inr ⟨a, stage, here, System.aims?_of_acquires acquires⟩

/-- While its connection is the one for new requests and is not lost, a subscription that nobody
    removes stays healthy until it is supplanted by news of another connection. -/
theorem endures (run : Past step? (start limit surroundings current) past base) (goesOn : Past step? base more link)
    (few : link.system.correlations < 2 ^ 64) (healthy : base.system.Healthy s c id k)
    (now : base.system.current = some c) (keeps : ∀ e ∈ more, e.move.keeps c) (open' : c ∉ link.lost)
    (stays : ∀ e ∈ more, ¬ Removes e s) : Endures base more s c id k := by
  have lasts := lasts_iff run goesOn few healthy open' stays
  refine ⟨lasts, fun e there d other => awaited_of_supplants run goesOn now keeps there other, ?_⟩
  intro heard known
  rw [lasts]
  rintro e there d other supplants
  have converges := converges_of_past run now
  rcases awaited_of_supplants run goesOn now keeps there other supplants with unheard | ⟨a, stage, here, aims⟩
  · rw [converges.nothing_unheard heard] at unheard
    cases unheard
  · rcases converges.told with (unheard | lags) | follows
    · exact heard unheard
    · exact known lags
    · exact other (follows.aims a stage d here aims)

end

/-! ## Two runs -/

/-- A step by which no subscription is removed, and no connection becomes the one for new requests. -/
def isPeaceful (link : Link σ κ) : Act σ κ → Bool
  | .idle | .use _ => false
  | .own (.proceed a) =>
    match link.system.stage? a with
    | some (.unlist _ _) => false
    | _ => true
  | _ => true

/-- What happens next in peace. -/
def peaceful? (link : Link σ κ) (act : Act σ κ) : Option (Link σ κ) :=
  if link.isPeaceful act then link.step? act else none

theorem keeps_of_isPeaceful {link : Link σ κ} {act : Act σ κ} {c : ConnectionId}
    (peaceful : link.isPeaceful act = true) : act.keeps c := by
  cases act with
  | idle | use => cases peaceful
  | _ => exact ⟨by simp, by simp⟩

theorem not_removes_of_isPeaceful {e : Step (Link σ κ) (Act σ κ)} {s : SubscriptionId}
    (peaceful : e.before.isPeaceful e.move = true) : ¬ Removes e s := by
  rintro ⟨move, moves, a, token, rfl, here⟩
  rw [moves] at peaceful
  simp [isPeaceful, here] at peaceful

/-- Whether the first subscription is healthy as the first to be registered on the second
    connection. -/
def isHealthy (sys : System Unit Unit) : Bool :=
  (sys.subscription? 0).any (fun sub => sub.state == .active && sub.registration == ⟨some 1, some ⟨0, 1⟩, some 1⟩) &&
    sys.table.contains 0 && sys.route? 1 == some ⟨0, 1⟩

theorem healthy_of_isHealthy {sys : System Unit Unit} (healthy : isHealthy sys = true) :
    sys.Healthy 0 1 ⟨0, 1⟩ 1 := by
  simp only [isHealthy, Bool.and_eq_true, Option.any_eq_true, beq_iff_eq, List.contains_eq_mem,
    decide_eq_true_eq] at healthy
  obtain ⟨⟨⟨sub, found, active, registered⟩, listed⟩, routed⟩ := healthy
  exact ⟨⟨sub, found, active, registered⟩, listed, routed⟩

/-- The turns in which a subscription is made and registered. -/
def subscribing (a : ActivityId) : List (Act Unit Unit) :=
  [.own (.begin (.subscribe System.tally none)), .own (.proceed a), .own (.proceed a), .own (.proceed a),
    .own (.proceed a), .own (.send 0), .own (.answer 0 (.ok System.tallied)), .own (.proceed a)]

/-- The listener has heard of the first connection when a subscription is made on the second. -/
def onTime : List (Act Unit Unit) :=
  [.listen 4, .use 0, .report, .own (.proceed 0), .own (.proceed 1), .own (.proceed 1), .own (.proceed 0), .lose 0,
    .mourn 0, .use 1, .report] ++ subscribing 2

/-- It hears that the first is lost, and of the second. -/
def noNews : List (Act Unit Unit) :=
  [.own (.proceed 0), .own (.proceed 3), .own (.proceed 0), .own (.proceed 0), .own (.proceed 4), .own (.proceed 5),
    .own (.proceed 4), .own (.proceed 0)]

theorem old_loss_disturbs_nobody : ∃ (past more : _) (base link : Link Unit Unit),
    Past step? (start (.ofSeconds 60) () none) past base ∧ Past step? base more link ∧
      link.system.correlations < 2 ^ 64 ∧ base.system.Healthy 0 1 ⟨0, 1⟩ 1 ∧ base.system.current = some 1 ∧
      (∀ e ∈ more, e.move.keeps 1) ∧ 1 ∉ link.lost ∧ (∀ e ∈ more, ¬ Removes e 0) ∧
      link.system.Healthy 0 1 ⟨0, 1⟩ 1 ∧ Endures base more 0 1 ⟨0, 1⟩ 1 := by
  have done : (onTime.foldlM step? (start (.ofSeconds 60) () none)).any fun base =>
      isHealthy base.system && base.system.current == some 1 &&
        (noNews.foldlM peaceful? base).any fun link =>
          link.system.correlations == 1 && !link.lost.contains 1 && isHealthy link.system := by
    decide +kernel
  simp only [Option.any_eq_true, Bool.and_eq_true, beq_iff_eq, Bool.not_eq_true', List.contains_eq_mem,
    decide_eq_false_iff_not] at done
  obtain ⟨base, first, ⟨healthy, now⟩, link, then', ⟨used, open'⟩, healthy'⟩ := done
  obtain ⟨past, run, -⟩ := Past.of_moves first
  obtain ⟨more, checked, -⟩ := Past.of_moves then'
  obtain ⟨goesOn, peaceful⟩ := Past.of_checked checked
  have few : link.system.correlations < 2 ^ 64 := by omega
  have keeps (e) (there : e ∈ more) : e.move.keeps 1 := keeps_of_isPeaceful (peaceful e there)
  have stays (e) (there : e ∈ more) : ¬ Removes e 0 := not_removes_of_isPeaceful (peaceful e there)
  have healthy := healthy_of_isHealthy healthy
  exact ⟨past, more, base, link, run, goesOn, few, healthy, now, keeps, open', stays, healthy_of_isHealthy healthy',
    endures run goesOn few healthy now keeps open' stays⟩

/-- The listener has heard of neither connection when a subscription is made on the second. -/
def tooEarly : List (Act Unit Unit) :=
  [.listen 4, .use 0, .report, .lose 0, .mourn 0, .use 1, .report] ++ subscribing 1

/-- It hears of the first, on which the subscription cannot be registered any longer, and then of
    the second, which does not answer. -/
def staleNews : List (Act Unit Unit) :=
  [.own (.proceed 0), .own (.proceed 2), .own (.proceed 3), .own (.proceed 3), .own (.proceed 3), .own (.send 1),
    .own (.answer 1 (.error (.link (.other "connection closed")))), .own (.proceed 3), .own (.proceed 3),
    .own (.proceed 2), .own (.proceed 0), .own (.proceed 0), .own (.proceed 4), .own (.proceed 0), .own (.proceed 0),
    .own (.proceed 5), .own (.proceed 6), .own (.proceed 6), .own (.send 2), .own (.expire 6), .own (.proceed 6),
    .own (.proceed 6), .own (.proceed 5), .own (.proceed 0)]

theorem stale_news_tears_down : ∃ (past more : _) (base link : Link Unit Unit),
    Past step? (start (.ofSeconds 60) () none) past base ∧ Past step? base more link ∧
      base.system.Healthy 0 1 ⟨0, 1⟩ 1 ∧ base.system.current = some 1 ∧ (∀ e ∈ more, e.move.keeps 1) ∧
      1 ∉ link.lost ∧ (∀ e ∈ more, ¬ Removes e 0) ∧
      ∃ sub, link.system.subscription? 0 = some sub ∧ sub.state = .failed ∧ sub.registration = .none := by
  have done : (tooEarly.foldlM step? (start (.ofSeconds 60) () none)).any fun base =>
      isHealthy base.system && base.system.current == some 1 &&
        (staleNews.foldlM peaceful? base).any fun link =>
          !link.lost.contains 1 &&
            (link.system.subscription? 0).any fun sub => sub.state == .failed && sub.registration == .none := by
    decide +kernel
  simp only [Option.any_eq_true, Bool.and_eq_true, beq_iff_eq, Bool.not_eq_true', List.contains_eq_mem,
    decide_eq_false_iff_not] at done
  obtain ⟨base, first, ⟨healthy, now⟩, link, then', open', sub, found, failed, unregistered⟩ := done
  obtain ⟨past, run, -⟩ := Past.of_moves first
  obtain ⟨more, checked, -⟩ := Past.of_moves then'
  obtain ⟨goesOn, peaceful⟩ := Past.of_checked checked
  exact ⟨past, more, base, link, run, goesOn, healthy_of_isHealthy healthy, now,
    fun e there => keeps_of_isPeaceful (peaceful e there), open',
    fun e there => not_removes_of_isPeaceful (peaceful e there), sub, found, failed, unregistered⟩

end Link
end Datagrid
