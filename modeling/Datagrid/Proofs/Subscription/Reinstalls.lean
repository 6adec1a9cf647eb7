import Datagrid.Proofs.Subscription.Reconnection

/-!
Reinstalls: who makes registrations again, and on which connection. Whoever does reacts to
a report, or was sent by one who did; and a report is reacted to because a listener has
learned of it. While everybody makes registrations on the connection for new requests,
nobody goes astray from it.
-/
namespace Datagrid

variable {σ κ : Type}

/-- The connection on which an activity at a stage makes registrations again. -/
def Stage.aims? : Stage σ κ → Option ConnectionId
  | react (.connected c) | lookup _ (.reinstall c) | lock _ (.reinstall c) | queue _ (.reinstall c)
  | dropRoute _ _ (.reinstall c) | addRoute _ .again c _ _ | awaitRegistration _ .again c _ _ _ => some c
  | _ => none

theorem Stage.Drift.aims? {stage later : Stage σ κ} (drift : stage.Drift later) : later.aims? = stage.aims? := by
  cases drift with
  | lateRegistration _ purpose => cases purpose <;> rfl
  | _ => rfl

namespace System

section
variable {sys next : System σ κ} {a b : ActivityId} {s t : SubscriptionId} {sub now : Subscription σ κ}
  {stage later begun : Stage σ κ} {change : Change σ κ} {c d : ConnectionId} {move : Move σ κ}
  {event : ConnectionEvent}

/-! ## Who makes registrations again -/

theorem aims?_of_acquires (acquires : Acquires a s sub (.reinstall c) stage) : stage.aims? = some c := by
  cases acquires <;> rfl

private theorem aims?_of_renews {renewed : Subscription σ κ} {routes : List (Int64 × Route)}
    (ready : Renews sys a s sub c stage renewed routes) : stage.aims? = some c := by
  cases ready with
  | unrouted acquires => exact aims?_of_acquires acquires
  | dropped => rfl

/-- Nobody begins to make registrations again in a turn that has to do with a subscription. -/
theorem Turn.aims?_eq (turn : Turn sys a s sub stage change) (aims : change.stage.aims? = some c) :
    stage.aims? = some c := by
  cases turn with
  | addRoute p => cases p <;> exact aims
  | wait goal => cases goal <;> exact aims
  | dropAgain acquires =>
    obtain rfl := Option.some.inj aims
    exact aims?_of_acquires acquires
  | installAgain ready =>
    obtain rfl := Option.some.inj aims
    exact aims?_of_renews ready
  | _ => cases aims

/-- A registration is made again where it was to be made, and for the first time on the
    connection for new requests. -/
theorem Turn.target?_eq (turn : Turn sys a s sub stage change) (target : change.stage.target? = some c) :
    stage.target? = some c ∨ stage.aims? = some c ∨ sys.current = some c := by
  cases turn with
  | list _ current =>
    obtain rfl := Option.some.inj target
    exact .inr (.inr current)
  | addRoute => exact .inl target
  | dropAgain acquires =>
    obtain rfl := Option.some.inj target
    exact .inr (.inl (aims?_of_acquires acquires))
  | installAgain ready =>
    obtain rfl := Option.some.inj target
    exact .inr (.inl (aims?_of_renews ready))
  | _ => cases target

private theorem index_of_started (there : (sys.after a change).stage? b = some begun) (new : sys.stage? b = none) :
    sys.activities.length ≤ b ∧ b < sys.activities.length + change.started.length := by
  refine ⟨List.getElem?_eq_none_iff.mp new, ?_⟩
  have bound := lt_of_stage? there
  simpa using bound

/-- Whoever reacts to an event has done so before, or a listener has learned of it. -/
theorem reacts_of_step (taken : sys.step? move = some next) (there : next.stage? b = some (.react event)) :
    sys.stage? b = some (.react event) ∨
      sys.stage? b = none ∧ (move = .begin (.react event) ∨ ∃ a feed rest, move = .proceed a ∧
        sys.stage? a = some (.listen feed none) ∧ sys.Learns feed rest event ∧
        next.stage? a = some (.listen rest (some b))) := by
  by_cases turns : ∃ a, move = .proceed a
  · obtain ⟨a, rfl⟩ := turns
    obtain ⟨stage, change, here, rfl, kind⟩ := after_of_proceed taken
    have self : (sys.after a change).stage? a = some change.stage := stage?_after_self here
    rcases stage?_after_cases there with ⟨-, same⟩ | ⟨-, before⟩ | ⟨-, new, begun⟩
    · rcases kind with ⟨s, sub, -, -, turn⟩ | ⟨-, errand⟩
      · cases turn <;> cases same
      · cases errand <;> cases same
    · exact .inl before
    · refine .inr ⟨new, .inr ?_⟩
      obtain ⟨low, high⟩ := index_of_started there new
      rcases kind with ⟨s, sub, -, -, turn⟩ | ⟨-, errand⟩
      · obtain ⟨c, request, same⟩ := turn.started_eq begun
        cases same
      · have first (single : change.started.length = 1) : b = sys.activities.length := by
          rw [single] at high
          exact Nat.le_antisymm (Nat.le_of_lt_succ high) low
        cases errand with
        | connected => simp at begun
        | @hear feed rest event' took =>
          obtain rfl := first rfl
          obtain rfl : event = event' := by simpa [waiting] using begun
          exact ⟨a, feed, rest, rfl, here, .item took, self⟩
        | @catchUp feed rest c took current =>
          obtain rfl := first rfl
          obtain rfl : event = .connected c := by simpa [waiting] using begun
          exact ⟨a, feed, rest, rfl, here, .lagged took current, self⟩
        | _ => simp [waiting] at begun
  · have idle (a) : move ≠ .proceed a := fun same => turns ⟨a, same⟩
    rcases (drifts_of_step taken idle).new b _ there with ⟨stage, before, drift⟩ | ⟨new, -⟩
    · cases drift
      exact .inl before
    · obtain ⟨beginning, rfl, same⟩ := begun_of_step taken idle new there
      cases beginning <;> cases same
      exact .inr ⟨new, .inl rfl⟩

/-- Whoever makes registrations again has done so before, has begun to react to a report, or
    was sent by one who did. -/
theorem aims_of_step (taken : sys.step? move = some next) (there : next.stage? b = some later)
    (aims : later.aims? = some c) :
    (∃ stage, sys.stage? b = some stage ∧ stage.aims? = some c) ∨ later = .react (.connected c) ∨
      ∃ a children, move = .proceed a ∧ sys.stage? a = some (.react (.connected c)) ∧
        next.stage? a = some (.join children) ∧ b ∈ children := by
  by_cases turns : ∃ a, move = .proceed a
  · obtain ⟨a, rfl⟩ := turns
    obtain ⟨stage, change, here, rfl, kind⟩ := after_of_proceed taken
    have self : (sys.after a change).stage? a = some change.stage := stage?_after_self here
    rcases stage?_after_cases there with ⟨rfl, rfl⟩ | ⟨-, before⟩ | ⟨-, new, begun⟩
    · left
      refine ⟨stage, here, ?_⟩
      rcases kind with ⟨s, sub, -, -, turn⟩ | ⟨-, errand⟩
      · exact turn.aims?_eq aims
      · cases errand with
        | find goal => cases goal <;> exact aims
        | _ => cases aims
    · exact .inl ⟨later, before, aims⟩
    · obtain ⟨low, high⟩ := index_of_started there new
      rcases kind with ⟨s, sub, -, -, turn⟩ | ⟨-, errand⟩
      · obtain ⟨c, request, rfl⟩ := turn.started_eq begun
        cases aims
      · cases errand with
        | connected c' =>
          obtain ⟨s, -, rfl⟩ := List.mem_map.mp begun
          obtain rfl : c' = c := Option.some.inj aims
          refine .inr (.inr ⟨a, _, rfl, here, self, List.mem_range'_1.mpr ⟨low, ?_⟩⟩)
          simpa using high
        | @hear feed rest event took =>
          obtain rfl : later = .react event := by simpa [waiting] using begun
          cases event with
          | connected c' => exact .inr (.inl (congrArg _ (congrArg _ (Option.some.inj aims))))
          | disconnected => cases aims
        | @catchUp feed rest c' took current =>
          obtain rfl : later = .react (.connected c') := by simpa [waiting] using begun
          exact .inr (.inl (congrArg _ (congrArg _ (Option.some.inj aims))))
        | removeNext =>
          obtain rfl := List.mem_singleton.mp begun
          cases aims
        | pump =>
          obtain rfl := List.mem_singleton.mp begun
          cases aims
        | _ => simp at begun
  · rcases (drifts_of_step taken fun a same => turns ⟨a, same⟩).new b _ there with
      ⟨stage, before, drift⟩ | ⟨-, beginning, rfl⟩
    · exact .inl ⟨stage, before, drift.aims? ▸ aims⟩
    · cases beginning with
      | react event =>
        cases event with
        | connected c' => exact .inr (.inl (congrArg _ (congrArg _ (Option.some.inj aims))))
        | disconnected => cases aims
      | _ => cases aims

/-! ## Who is astray -/

/-- A subscription is registered on another connection, or is being registered there. -/
def Astray (sys : System σ κ) (c : ConnectionId) (s : SubscriptionId) : Prop :=
  sys.Elsewhere c s ∨ ∃ a stage former, sys.stage? a = some stage ∧ stage.subscription? = some s ∧
    stage.target? = some former ∧ former ≠ c

/-- All registrations are made on a connection, and whoever is astray from it is going to be told. -/
structure Follows (sys : System σ κ) (c : ConnectionId) : Prop where
  aims : ∀ a stage d, sys.stage? a = some stage → stage.aims? = some d → d = c
  reminded : ∀ s, sys.Astray c s → sys.Hears c s

/-- A subscription that is being registered counts. -/
theorem mem_table_of_target (sound : sys.Sound) (here : sys.stage? a = some stage)
    (about : stage.subscription? = some s) (target : stage.target? = some c) : s ∈ sys.table := by
  obtain ⟨sub, found⟩ := subscription?_of_lt (sound.about a stage s here about)
  obtain ⟨engaged, past⟩ := engages?_of_target? about target
  obtain ⟨-, holds⟩ := (sound.kept s sub found).has here engaged past
  cases stage <;> simp only [Stage.target?, reduceCtorEq] at target
  case addRoute => exact mem_table_of_installing holds
  case awaitRegistration => exact mem_table_of_installing holds
  case dropRoute k goal =>
    cases goal with
    | reinstall => exact holds.2.1
    | _ => cases target

theorem mem_table_of_astray (sound : sys.Sound) (astray : sys.Astray c s) : s ∈ sys.table := by
  rcases astray with ⟨sub, former, k, found, -, routed, -⟩ | ⟨a, stage, former, here, about, target, -⟩
  · exact mem_table_of_routed sound found routed
  · exact mem_table_of_target sound here about target

private theorem not_target_of_begins (begins : later.Begins) : later.target? = none := by
  cases begins with
  | asked beginning => cases beginning <;> rfl
  | _ => rfl

/-- While all registrations are made on the connection for new requests, nobody goes astray. -/
theorem astray_of_step (taken : sys.step? move = some next) (current : sys.current = some c)
    (aims : ∀ a stage d, sys.stage? a = some stage → stage.aims? = some d → d = c)
    (astray : next.Astray c s) : sys.Astray c s := by
  rcases astray with elsewhere | ⟨b, later, former, there, named, target, apart⟩
  · rcases elsewhere_of_step taken elsewhere with before | ⟨a, p, former, k, r, late, -, here, -, apart⟩
    · exact .inl before
    · exact .inr ⟨a, _, former, here, rfl, rfl, apart⟩
  · rcases stage?_of_step taken there with
      ⟨stage, change, rfl, here, rfl, rfl, kind⟩ | ⟨-, stage, here, drift⟩ | ⟨-, begins⟩
    · rcases kind with ⟨t, sub, about, -, turn⟩ | ⟨-, errand⟩
      · obtain rfl := turn.stage_about named
        rcases turn.target?_eq target with before | before | before
        · exact .inr ⟨b, stage, former, here, about, before, apart⟩
        · exact absurd (aims b stage former here before) apart
        · exact absurd (Option.some.inj (before.symm.trans current)) apart
      · cases errand <;> cases target
    · exact .inr ⟨b, stage, former, here, drift.subscription? ▸ named, drift.target? ▸ target, apart⟩
    · simp [not_target_of_begins begins] at target

/-- Once an activity has the lock of a subscription to register it on the connection for new
    requests, it is not astray. -/
private theorem not_astray_of_turn (sound : sys.Sound) (current : sys.current = some c)
    (here : sys.stage? a = some stage) (found : sys.subscription? s = some sub)
    (turn : Turn sys a s sub stage change) (acquires : Acquires a s sub (.reinstall c) stage) :
    ¬ (sys.after a change).Astray c s := by
  have kept := sound.kept s sub found
  obtain ⟨had, -⟩ := acquires.before kept here
  rintro (elsewhere | ⟨b, later, former, there, named, target, apart⟩)
  · exact not_elsewhere_of_turn sound here found turn acquires elsewhere
  · rcases stage?_after_cases there with ⟨rfl, rfl⟩ | ⟨other, before⟩ | ⟨-, -, begun⟩
    · rcases turn.target?_eq target with before | before | before
      · cases acquires <;> cases before
      · exact apart (Option.some.inj (before.symm.trans (aims?_of_acquires acquires)))
      · exact apart (Option.some.inj (before.symm.trans current))
    · obtain ⟨engaged, past⟩ := engages?_of_target? named target
      obtain ⟨has, -⟩ := kept.has before engaged past
      rcases had with own | none
      · exact other (Option.some.inj (has.symm.trans own))
      · simp [has] at none
    · obtain ⟨d, request, rfl⟩ := turn.started_eq begun
      cases target

/-- As long as no report of another connection is reacted to, all registrations are made on the
    connection for new requests. -/
theorem Follows.step (follows : sys.Follows c) (sound : sys.Sound) (current : sys.current = some c)
    (taken : sys.step? move = some next) (goesOn : move ≠ .closeEvents)
    (only : ∀ b d, next.stage? b = some (.react (.connected d)) → sys.stage? b = none → d = c) : next.Follows c := by
  refine ⟨?_, ?_⟩
  · intro b later d there aims
    rcases aims_of_step taken there aims with ⟨stage, here, before⟩ | rfl | ⟨a, children, -, here, -, -⟩
    · exact follows.aims b stage d here before
    · rcases reacts_of_step taken there with before | ⟨new, -⟩
      · exact follows.aims b _ d before rfl
      · exact only b d there new
    · exact follows.aims a _ d here rfl
  · intro s astray
    have before := astray_of_step taken current follows.aims astray
    rcases (follows.reminded s before).step (mem_table_of_astray sound before) taken goesOn current with
      still | ⟨a, stage, sub, change, rfl, here, found, rfl, turn, acquires⟩
    · exact still
    · exact absurd astray (not_astray_of_turn sound current here found turn acquires)

/-! ## One listener -/

/-- At most one activity listens to the transport, all reports are reacted to in its name, and
    it waits for whoever makes registrations again. -/
structure Serial (sys : System σ κ) (listener : Option ActivityId) : Prop where
  listens : ∀ a, listener = some a → ∃ feed child, sys.stage? a = some (.listen feed child) ∧ feed.closed = false
  alone : ∀ a feed child, sys.stage? a = some (.listen feed child) → listener = some a
  reacts : ∀ b event, sys.stage? b = some (.react event) →
    ∃ a feed, listener = some a ∧ sys.stage? a = some (.listen feed (some b))
  sends : ∀ b stage c, sys.stage? b = some stage → stage.aims? = some c →
    ∃ a feed child, listener = some a ∧ sys.stage? a = some (.listen feed (some child)) ∧
      (b = child ∨ ∃ children, sys.stage? child = some (.join children) ∧ b ∈ children)

/-- Whoever listens has listened before, or begins to. -/
theorem listening_of_step {feed : Feed ConnectionEvent} {child : Option ActivityId}
    (taken : sys.step? move = some next) (there : next.stage? b = some (.listen feed child)) :
    (∃ feed child, sys.stage? b = some (.listen feed child)) ∨ ∃ capacity, move = .begin (.listen capacity) := by
  by_cases turns : ∃ a, move = .proceed a
  · obtain ⟨a, rfl⟩ := turns
    obtain ⟨stage, change, here, rfl, kind⟩ := after_of_proceed taken
    rcases stage?_after_cases there with ⟨rfl, same⟩ | ⟨-, before⟩ | ⟨-, -, begun⟩
    · rcases kind with ⟨s, sub, -, -, turn⟩ | ⟨-, errand⟩
      · cases turn <;> cases same
      · cases errand with
        | heard | hear | catchUp | missOut => exact .inl ⟨_, _, here⟩
        | _ => cases same
    · exact .inl ⟨feed, child, before⟩
    · rcases kind with ⟨s, sub, -, -, turn⟩ | ⟨-, errand⟩
      · obtain ⟨c, request, same⟩ := turn.started_eq begun
        cases same
      · cases errand with
        | connected => simp at begun
        | _ => simp [waiting] at begun
  · have idle (a) : move ≠ .proceed a := fun same => turns ⟨a, same⟩
    rcases (drifts_of_step taken idle).new b _ there with ⟨stage, before, drift⟩ | ⟨new, -⟩
    · cases drift <;> exact .inl ⟨_, _, before⟩
    · obtain ⟨beginning, rfl, same⟩ := begun_of_step taken idle new there
      cases beginning <;> cases same
      exact .inr ⟨_, rfl⟩

theorem done_of_isDone (finished : sys.isDone b = true) : ∃ outcome, sys.stage? b = some (.done outcome) := by
  obtain ⟨outcome, reached⟩ := Option.isSome_iff_exists.mp finished
  exact ⟨outcome, outcome?_eq_some.mp reached⟩

/-- A listener that waits for somebody goes on waiting until they are done. -/
private theorem waits_of_step {feed : Feed ConnectionEvent} {child : ActivityId}
    (taken : sys.step? move = some next) (goesOn : move ≠ .closeEvents)
    (here : sys.stage? a = some (.listen feed (some child))) (open' : feed.closed = false)
    (busy : ¬ sys.isDone child) : ∃ later, next.stage? a = some (.listen later (some child)) := by
  obtain ⟨later, child', there, -, heeds⟩ := heeds_of_step taken goesOn here open'
  cases heeds with
  | still | reported => exact ⟨_, there⟩
  | ready same finished =>
    obtain rfl := Option.some.inj same
    exact absurd finished busy
  | learns none | misses none => cases none

private theorem not_isDone (here : sys.stage? b = some stage) (works : ∀ outcome, stage ≠ .done outcome) :
    ¬ sys.isDone b := by
  intro finished
  obtain ⟨outcome, there⟩ := done_of_isDone finished
  exact works outcome (Option.some.inj (here.symm.trans there))

/-- Whoever joins others goes on waiting until all of them are done. -/
private theorem joins_of_step {children : List ActivityId} (taken : sys.step? move = some next)
    (joins : sys.stage? a = some (.join children)) (member : b ∈ children) (busy : ¬ sys.isDone b) :
    next.stage? a = some (.join children) := by
  by_cases own : move = .proceed a
  · subst own
    obtain ⟨stage, change, here, rfl, ⟨s, sub, about, -, -⟩ | ⟨-, errand⟩⟩ := after_of_proceed taken
    · cases joins.symm.trans here
      cases about
    · cases joins.symm.trans here
      cases errand with
      | join all => exact absurd (List.all_eq_true.mp all b member) busy
  · obtain ⟨later, there, drift⟩ := drift_of_step taken own joins
    cases drift
    exact there

section
variable {listener : Option ActivityId} (serial : sys.Serial listener) (taken : sys.step? move = some next)
  (goesOn : move ≠ .closeEvents)
include serial taken goesOn

/-- The listener goes on waiting for whoever is not done. -/
private theorem Serial.waits {feed : Feed ConnectionEvent} {child : ActivityId} (same : listener = some a)
    (here : sys.stage? a = some (.listen feed (some child))) (busy : ¬ sys.isDone child) :
    ∃ later, next.stage? a = some (.listen later (some child)) := by
  obtain ⟨feed', child', here', open'⟩ := serial.listens a same
  cases here.symm.trans here'
  exact waits_of_step taken goesOn here open' busy

private theorem Serial.reacts_of_step (asked : ∀ event, move ≠ .begin (.react event))
    (there : next.stage? b = some (.react event)) :
    ∃ a feed, listener = some a ∧ next.stage? a = some (.listen feed (some b)) := by
  rcases System.reacts_of_step taken there with here | ⟨-, asks | ⟨a, feed, rest, -, here, -, waits⟩⟩
  · obtain ⟨a, feed, same, listening⟩ := serial.reacts b event here
    obtain ⟨later, still⟩ := serial.waits taken goesOn same listening (not_isDone here (by simp))
    exact ⟨a, later, same, still⟩
  · exact absurd asks (asked event)
  · exact ⟨a, rest, serial.alone a feed none here, waits⟩

private theorem Serial.sends_of_step (asked : ∀ event, move ≠ .begin (.react event))
    (there : next.stage? b = some later) (aims : later.aims? = some c) :
    ∃ a feed child, listener = some a ∧ next.stage? a = some (.listen feed (some child)) ∧
      (b = child ∨ ∃ children, next.stage? child = some (.join children) ∧ b ∈ children) := by
  rcases aims_of_step taken there aims with ⟨stage, here, before⟩ | rfl | ⟨a', children, own, here, joins, member⟩
  · have busy : ¬ sys.isDone b := by
      refine not_isDone here ?_
      rintro outcome rfl
      cases before
    obtain ⟨a, feed, child, same, listening, rfl | ⟨children, joins, member⟩⟩ := serial.sends b stage c here before
    · obtain ⟨later, still⟩ := serial.waits taken goesOn same listening busy
      exact ⟨a, later, b, same, still, .inl rfl⟩
    · obtain ⟨later, still⟩ := serial.waits taken goesOn same listening (not_isDone joins (by simp))
      exact ⟨a, later, child, same, still, .inr ⟨children, joins_of_step taken joins member busy, member⟩⟩
  · obtain ⟨a, feed, same, listening⟩ := serial.reacts_of_step taken goesOn asked there
    exact ⟨a, feed, b, same, listening, .inl rfl⟩
  · obtain ⟨a, feed, same, listening⟩ := serial.reacts a' _ here
    obtain ⟨later, still⟩ := serial.waits taken goesOn same listening (not_isDone here (by simp))
    exact ⟨a, later, a', same, still, .inr ⟨children, joins, member⟩⟩

theorem Serial.step (listens : ∀ capacity, move ≠ .begin (.listen capacity))
    (asked : ∀ event, move ≠ .begin (.react event)) : next.Serial listener := by
  refine ⟨?_, ?_, ?_, ?_⟩
  · intro a same
    obtain ⟨feed, child, here, open'⟩ := serial.listens a same
    obtain ⟨later, child', there, still, -⟩ := heeds_of_step taken goesOn here open'
    exact ⟨later, child', there, still⟩
  · intro a feed child there
    rcases listening_of_step taken there with ⟨feed', child', before⟩ | ⟨capacity, begins⟩
    · exact serial.alone a feed' child' before
    · exact absurd begins (listens capacity)
  · intro b event there
    exact serial.reacts_of_step taken goesOn asked there
  · intro b later c there aims
    exact serial.sends_of_step taken goesOn asked there aims

end

/-- While the listener waits for nobody, nobody makes registrations again. -/
theorem Serial.rests {listener : ActivityId} (serial : sys.Serial (some listener)) {feed : Feed ConnectionEvent}
    (here : sys.stage? listener = some (.listen feed none)) :
    (∀ b event, sys.stage? b ≠ some (.react event)) ∧
      ∀ b stage c, sys.stage? b = some stage → stage.aims? ≠ some c := by
  refine ⟨?_, ?_⟩
  · intro b event reacts
    obtain ⟨a, feed', same, listening⟩ := serial.reacts b event reacts
    cases same
    cases here.symm.trans listening
  · intro b stage c there aims
    obtain ⟨a, feed', child, same, listening, -⟩ := serial.sends b stage c there aims
    cases same
    cases here.symm.trans listening

end
end System
end Datagrid
