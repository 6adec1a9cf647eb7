import Datagrid.Proofs.Subscription.Lifecycle

/-!
Notices and counts: what is told and counted is what has happened. A notice is given in the step in which a
subscription is registered again, could not be, or is removed, and in no other. The counts are the numbers of the
messages that came, of those that were handed to a listener, and of what has failed.
-/
namespace Datagrid

variable {σ κ : Type}

namespace Notice

variable {ι : Type}

def isReinstalled : Notice ι → Bool
  | reinstalled _ _ => true
  | failed _ _ | removed _ => false

def isFailed : Notice ι → Bool
  | failed _ _ => true
  | reinstalled _ _ | removed _ => false

end Notice

/-- Whether there is something to tell when a subscription comes from one state into another. A first registration
    that fails is not told. -/
def SubscriptionState.isTold : SubscriptionState → SubscriptionState → Bool
  | reinstalling, active | reinstalling, failed | active, removed | failed, removed => true
  | _, _ => false

namespace SubscriptionState

theorem isTold_self (state : SubscriptionState) : isTold state state = false := by
  cases state <;> rfl

theorem isTold_reinstalling (state : SubscriptionState) : isTold state reinstalling = false := by
  cases state <;> rfl

end SubscriptionState

/-- The message that an activity at a stage is about to deliver, and to which subscription. -/
def Stage.delivers? : Stage σ κ → Option (SubscriptionId × Message)
  | deliver s m => some (s, m)
  | _ => none

/-- The message that an activity at a stage is about to receive. -/
def Stage.receives? : Stage σ κ → Option Message
  | event _ m => some m
  | _ => none

namespace Step

/-- The stage of the activity whose turn a step is. -/
def stage? (e : Step (System σ κ) (Move σ κ)) : Option (Stage σ κ) :=
  match e.move with
  | .proceed a => e.before.stage? a
  | _ => none

/-- Why there is no registration, where a step undoes what was done for it. -/
def fault? (e : Step (System σ κ) (Move σ κ)) : Option Fault :=
  match e.stage? with
  | some (.removeRoute _ _ _ fault) => some fault
  | _ => none

/-- What there is to tell of a subscription after a step, by the states before it and after it. -/
def tidings (e : Step (System σ κ) (Move σ κ)) (s : SubscriptionId) : List (Notice SubscriptionId) :=
  match e.before.subscription? s, e.after.subscription? s with
  | some sub, some now =>
    match sub.state, now.state with
    | .reinstalling, .active => now.registration.connection.toList.map (.reinstalled s)
    | .reinstalling, .failed => e.fault?.toList.map fun fault => .failed s fault.message
    | .active, .removed | .failed, .removed => [.removed s]
    | _, _ => []
  | _, _ => []

/-- The message that is received in a step. -/
def received? (e : Step (System σ κ) (Move σ κ)) : Option Message := e.stage?.bind Stage.receives?

/-- What a listener has made of the message that is handed to it in a step. A subscription that does not count any
    more is handed none. -/
def handed? (e : Step (System σ κ) (Move σ κ)) : Option (Except Fault (List κ)) := do
  let (s, m) ← e.stage?.bind Stage.delivers?
  let sub ← e.before.subscription? s
  if s ∈ e.before.table ∧ sub.state ≠ .removed then some (sub.listener.calls e.before.surroundings m) else none

/-- Whether a message is received in a step, and has no correlation id. -/
def isMalformed (e : Step (System σ κ) (Move σ κ)) : Bool := e.received?.any fun m => !m.correlation.isOk

/-- Whether a message is handed over in a step, and the listener fails. -/
def isRefused (e : Step (System σ κ) (Move σ κ)) : Bool := e.handed?.any fun calls => !calls.isOk

/-- The counts after a step that tells some news. -/
def counted (e : Step (System σ κ) (Move σ κ)) (news : List (Notice SubscriptionId)) : Counts where
  messages := e.before.counts.messages + e.received?.isSome.toNat
  dispatched := e.before.counts.dispatched + e.handed?.isSome.toNat
  errors := e.before.counts.errors + e.isMalformed.toNat + e.isRefused.toNat + news.countP Notice.isFailed
  reinstalls := e.before.counts.reinstalls + news.countP Notice.isReinstalled

/-- What a step adds to the notices and to the counts. -/
structure Tells (e : Step (System σ κ) (Move σ κ)) (news : List (Notice SubscriptionId)) : Prop where
  notices : e.after.notices = e.before.notices ++ news
  counts : e.after.counts = e.counted news
  tidings : ∀ s, news.filter (·.subscription = s) = e.tidings s

/-- What there may be to tell of a subscription after a step. -/
inductive Told (e : Step (System σ κ) (Move σ κ)) (s : SubscriptionId) (now : Subscription σ κ) : Prop where
  | reinstalled (c : ConnectionId) : now.state = .active → now.registration.connection = some c →
      e.tidings s = [.reinstalled s c] → Told e s now
  | failed (a : ActivityId) (k : Int64) (fault : Fault) : e.Turns a (.removeRoute s .again k fault) →
      now.state = .failed → e.tidings s = [.failed s fault.message] → Told e s now
  | removed (a : ActivityId) (token : Option TokenId) (stage : Stage σ κ) : e.Turns a stage →
      (stage = .unlist s token ∨ ∃ k, stage = .dropRoute s k (.unsubscribe token)) → now.state = .removed →
      e.tidings s = [.removed s] → Told e s now

end Step

namespace System

/-- What a turn tells of its subscription, and what it counts. -/
inductive Tells (sys : System σ κ) (s : SubscriptionId) (sub now : Subscription σ κ) (stage : Stage σ κ)
    (change : Change σ κ) : List (Notice SubscriptionId) → Prop where
  | nothing : change.notices = sys.notices → change.counts = sys.counts → stage.delivers? = none →
      SubscriptionState.isTold sub.state now.state = false → Tells sys s sub now stage change []
  | missed (m : Message) : stage = .deliver s m → s ∉ sys.table ∨ sub.state = .removed → now = sub →
      change.notices = sys.notices → change.counts = sys.counts → Tells sys s sub now stage change []
  | handed (m : Message) : stage = .deliver s m → s ∈ sys.table → sub.state ≠ .removed → now = sub →
      change.notices = sys.notices →
      (change.counts = match sub.listener.calls sys.surroundings m with
        | .ok _ => sys.counts.dispatch
        | .error _ => sys.counts.dispatch.error) → Tells sys s sub now stage change []
  | reinstalled (c : ConnectionId) : change.notices = sys.notices ++ [.reinstalled s c] →
      change.counts = sys.counts.reinstall → stage.delivers? = none → sub.state = .reinstalling →
      now.state = .active → now.registration.connection = some c →
      Tells sys s sub now stage change [.reinstalled s c]
  | failed (k : Int64) (fault : Fault) : stage = .removeRoute s .again k fault →
      change.notices = sys.notices ++ [.failed s fault.message] → change.counts = sys.counts.error →
      sub.state = .reinstalling → now.state = .failed → Tells sys s sub now stage change [.failed s fault.message]
  | removed (token : Option TokenId) :
      (stage = .unlist s token ∨ ∃ k, stage = .dropRoute s k (.unsubscribe token)) →
      change.notices = sys.notices ++ [.removed s] → change.counts = sys.counts →
      sub.state = .active ∨ sub.state = .failed → now.state = .removed → Tells sys s sub now stage change [.removed s]

section
variable {sys next : System σ κ} {a b : ActivityId} {s t : SubscriptionId} {sub now : Subscription σ κ}
  {stage later : Stage σ κ} {change : Change σ κ} {move : Move σ κ} {news : List (Notice SubscriptionId)}

/-! ## What a turn tells -/

private theorem delivers?_of_acquires {goal : Goal} (acquires : Acquires a s sub goal stage) :
    stage.delivers? = none := by
  cases acquires <;> rfl

/-- Whoever is about to remove a subscription was called for that, and the subscription is registered, or has failed
    to be. -/
private theorem Leaves.before_removal {token : Option TokenId} {table : List SubscriptionId}
    {routes : List (Int64 × Route)} (leaves : Leaves sys s sub token stage table routes) (kept : sys.Kept s sub)
    (here : sys.stage? a = some stage) :
    (stage = .unlist s token ∨ ∃ k, stage = .dropRoute s k (.unsubscribe token)) ∧
      (sub.state = .active ∨ sub.state = .failed) := by
  cases leaves with
  | unrouted =>
    obtain ⟨-, settled, live⟩ := kept.has here rfl (by simp)
    refine ⟨.inl rfl, ?_⟩
    cases settled with
    | active state => exact .inl state
    | failed state => exact .inr state
    | removed gone => exact absurd gone live
  | dropped k =>
    obtain ⟨-, state, -⟩ := kept.has here rfl (by simp)
    exact ⟨.inr ⟨k, rfl⟩, .inl state⟩

/-- Every turn tells and counts what it does, and nothing else. -/
theorem Turn.tells (turn : Turn sys a s sub stage change) (kept : sys.Kept s sub)
    (found : sys.subscription? s = some sub) (here : sys.stage? a = some stage) :
    ∃ now news, change.subscriptions = sys.subscriptions.set s now ∧ Tells sys s sub now stage change news := by
  have unchanged : sys.subscriptions = sys.subscriptions.set s sub := (set_found found).symm
  have same : SubscriptionState.isTold sub.state sub.state = false := SubscriptionState.isTold_self _
  cases turn with
  | enter =>
    obtain ⟨-, state, -⟩ := kept.has here rfl (by simp)
    exact ⟨_, _, rfl, .nothing rfl rfl rfl (by rw [state]; rfl)⟩
  | registerFirst =>
    obtain ⟨-, state, -⟩ := kept.has here rfl (by simp)
    exact ⟨_, _, rfl, .nothing rfl rfl rfl (by rw [state]; rfl)⟩
  | registerAgain c =>
    obtain ⟨-, state, -⟩ := kept.has here rfl (by simp)
    exact ⟨_, _, rfl, .reinstalled c rfl rfl rfl state rfl rfl⟩
  | undoAgain k fault =>
    obtain ⟨-, state, -⟩ := kept.has here rfl (by simp)
    exact ⟨_, _, rfl, .failed k fault rfl rfl rfl state rfl⟩
  | withdraw =>
    obtain ⟨-, state, -⟩ := kept.has here rfl (by simp)
    exact ⟨_, _, rfl, .nothing rfl rfl rfl (by rw [state]; rfl)⟩
  | learn acquires | tooLate acquires | beginRemoval acquires | skip acquires =>
    exact ⟨_, _, rfl, .nothing rfl rfl (delivers?_of_acquires acquires) same⟩
  | dropAgain acquires =>
    exact ⟨_, _, rfl, .nothing rfl rfl (delivers?_of_acquires acquires) (SubscriptionState.isTold_reinstalling _)⟩
  | installAgain ready =>
    cases ready with
    | unrouted acquires =>
      exact ⟨_, _, rfl, .nothing rfl rfl (delivers?_of_acquires acquires) (SubscriptionState.isTold_reinstalling _)⟩
    | dropped => exact ⟨_, _, rfl, .nothing rfl rfl rfl same⟩
  | failAgain ready refused =>
    obtain ⟨message, set⟩ := ready.takes kept here sys.nextCorrelation
    cases set.symm.trans refused
  | removeUnregistered leaves | removeUnsaid leaves | remove leaves =>
    obtain ⟨called, state⟩ := leaves.before_removal kept here
    exact ⟨_, _, rfl, .removed _ called rfl rfl state rfl⟩
  | unconnected | list | unready | addRoute | abandon | refuse =>
    exact ⟨sub, _, unchanged, .nothing rfl rfl rfl same⟩
  | missed m gone => exact ⟨sub, _, unchanged, .missed m rfl gone rfl rfl rfl⟩
  | deliver listed live called =>
    exact ⟨sub, _, unchanged, .handed _ rfl listed live rfl rfl (by rw [called])⟩
  | undeliverable listed live called =>
    exact ⟨sub, _, unchanged, .handed _ rfl listed live rfl rfl (by rw [called])⟩
  | _ => exact ⟨_, _, rfl, .nothing rfl rfl rfl same⟩

/-- No errand has to do with a notice, and the only thing that it counts is a message that it receives. -/
theorem Errand.tells (errand : Errand sys a stage change) :
    change.notices = sys.notices ∧ stage.delivers? = none ∧
      ((∃ m, stage.receives? = some m ∧
          change.counts = if m.correlation.isOk then sys.counts.message else sys.counts.message.error) ∨
        stage.receives? = none ∧ change.counts = sys.counts) := by
  cases errand with
  | event c read => exact ⟨rfl, rfl, .inl ⟨_, rfl, by rw [read]; rfl⟩⟩
  | malformed c unread => exact ⟨rfl, rfl, .inl ⟨_, rfl, by rw [unread]; rfl⟩⟩
  | _ => exact ⟨rfl, rfl, .inr ⟨rfl, rfl⟩⟩

theorem receives?_of_about (about : stage.subscription? = some s) : stage.receives? = none := by
  cases stage <;> first | rfl | cases about

/-! ## What a step tells -/

/-- There is nothing to tell of a subscription whose state stays what it is. -/
theorem tidings_of_silent {e : Step (System σ κ) (Move σ κ)} (found : e.before.subscription? s = some sub)
    (found' : e.after.subscription? s = some now) (silent : SubscriptionState.isTold sub.state now.state = false) :
    e.tidings s = [] := by
  simp only [Step.tidings, found, found']
  split <;> first | rfl | simp_all [SubscriptionState.isTold]

/-- A subscription that was not there is not told of, either. -/
theorem tidings_of_new {e : Step (System σ κ) (Move σ κ)} (new : e.before.subscription? s = none) : e.tidings s = [] := by
  simp only [Step.tidings, new]

/-- There is nothing to tell where no subscription changes. -/
theorem tidings_of_still {e : Step (System σ κ) (Move σ κ)}
    (still : ∀ s sub, e.before.subscription? s = some sub → e.after.subscription? s = some sub) (s : SubscriptionId) :
    e.tidings s = [] := by
  cases found : e.before.subscription? s with
  | none => exact tidings_of_new found
  | some sub => exact tidings_of_silent found (still s sub found) (SubscriptionState.isTold_self _)

/-- Nothing is handed over in a turn that delivers nothing. -/
theorem handed?_of_none {e : Step (System σ κ) (Move σ κ)} (here : e.stage? = some stage)
    (idle : stage.delivers? = none) : e.handed? = none := by
  simp [Step.handed?, here, idle]

/-- Where a message is to be delivered, it is handed over if the subscription still counts. -/
theorem handed?_of_deliver {e : Step (System σ κ) (Move σ κ)} {m : Message} (here : e.stage? = some (.deliver s m))
    (found : e.before.subscription? s = some sub) :
    e.handed? = if s ∈ e.before.table ∧ sub.state ≠ .removed then
      some (sub.listener.calls e.before.surroundings m) else none := by
  simp [Step.handed?, here, Stage.delivers?, found]

/-- A turn tells of no other subscription than its own. -/
theorem Tells.about (tells : Tells sys s sub now stage change news) : ∀ notice ∈ news, notice.subscription = s := by
  cases tells <;> simp [Notice.subscription]

/-- What a turn tells is what there is to tell of its subscription. -/
theorem Tells.tidings_eq (tells : Tells sys s sub now stage change news) (here : sys.stage? a = some stage)
    (found : sys.subscription? s = some sub) (found' : (sys.after a change).subscription? s = some now) :
    Step.tidings ⟨sys, .proceed a, sys.after a change⟩ s = news := by
  cases tells with
  | nothing _ _ _ silent => exact tidings_of_silent found found' silent
  | missed _ _ _ same | handed _ _ _ _ same =>
    exact tidings_of_silent found found' (by rw [same]; exact SubscriptionState.isTold_self _)
  | reinstalled c _ _ _ before after registered => simp [Step.tidings, found, found', before, after, registered]
  | failed k fault undoes _ _ before after =>
    simp [Step.tidings, found, found', before, after, Step.fault?, Step.stage?, here, undoes]
  | removed _ _ _ _ before after => rcases before with before | before <;> simp [Step.tidings, found, found', before, after]

/-- Of the other subscriptions there is nothing to tell. -/
theorem Tells.filter_eq (tells : Tells sys s sub now stage change news) (here : sys.stage? a = some stage)
    (found : sys.subscription? s = some sub) (put : change.subscriptions = sys.subscriptions.set s now)
    (t : SubscriptionId) :
    news.filter (·.subscription = t) = Step.tidings ⟨sys, .proceed a, sys.after a change⟩ t := by
  by_cases own : t = s
  · subst own
    rw [tells.tidings_eq here found (subscription?_put put found), List.filter_eq_self]
    intro notice there
    simp [tells.about notice there]
  · have none : news.filter (·.subscription = t) = [] := by
      rw [List.filter_eq_nil_iff]
      intro notice there
      simp [tells.about notice there, Ne.symm own]
    have still := subscription?_put_of_ne (a := a) put own
    rw [none]
    cases there : sys.subscription? t with
    | none => exact (tidings_of_new there).symm
    | some other => exact (tidings_of_silent there (still.trans there) (SubscriptionState.isTold_self _)).symm

/-- Where no message is received and none is handed over, it is the news that count. -/
theorem counted_of_unhanded {e : Step (System σ κ) (Move σ κ)} (received : e.received? = none)
    (unhanded : e.handed? = none) :
    e.counted news = { e.before.counts with
      errors := e.before.counts.errors + news.countP Notice.isFailed
      reinstalls := e.before.counts.reinstalls + news.countP Notice.isReinstalled } := by
  simp [Step.counted, Step.isMalformed, Step.isRefused, received, unhanded]

/-- A message that is handed over is dispatched, and is an error if the listener fails. -/
theorem counted_of_handed {e : Step (System σ κ) (Move σ κ)} {outcome : Except Fault (List κ)}
    (received : e.received? = none) (handed : e.handed? = some outcome) :
    e.counted [] = if outcome.isOk then e.before.counts.dispatch else e.before.counts.dispatch.error := by
  cases outcome <;>
    simp [Step.counted, Step.isMalformed, Step.isRefused, received, handed, Counts.dispatch, Counts.error,
      Except.isOk, Except.toBool]

/-- A message that is received is counted, and is an error if it has no correlation id. -/
theorem counted_of_received {e : Step (System σ κ) (Move σ κ)} {m : Message} (received : e.received? = some m)
    (unhanded : e.handed? = none) :
    e.counted [] = if m.correlation.isOk then e.before.counts.message else e.before.counts.message.error := by
  cases read : m.correlation.isOk <;>
    simp [Step.counted, Step.isMalformed, Step.isRefused, received, unhanded, read, Counts.message, Counts.error]

theorem Tells.notices_eq (tells : Tells sys s sub now stage change news) : change.notices = sys.notices ++ news := by
  cases tells with
  | nothing notices | missed _ _ _ _ notices | handed _ _ _ _ _ notices => rw [notices, List.append_nil]
  | reinstalled _ notices | failed _ _ _ notices | removed _ _ notices => exact notices

/-- A turn counts what it tells, and a message that it hands over. -/
theorem Tells.counts_eq (tells : Tells sys s sub now stage change news) (here : sys.stage? a = some stage)
    (about : stage.subscription? = some s) (found : sys.subscription? s = some sub) :
    change.counts = Step.counted ⟨sys, .proceed a, sys.after a change⟩ news := by
  have received : Step.received? ⟨sys, .proceed a, sys.after a change⟩ = none := by
    simp [Step.received?, Step.stage?, here, receives?_of_about about]
  have unhanded (idle : stage.delivers? = none) : Step.handed? ⟨sys, .proceed a, sys.after a change⟩ = none :=
    handed?_of_none here idle
  cases tells with
  | nothing _ counts idle => rw [counted_of_unhanded received (unhanded idle), counts]; rfl
  | missed m delivers gone _ _ counts =>
    have unhanded : Step.handed? ⟨sys, .proceed a, sys.after a change⟩ = none := by
      rw [handed?_of_deliver (delivers ▸ here) found, if_neg]
      rintro ⟨listed, live⟩
      exact gone.elim (fun absent => absent listed) live
    rw [counted_of_unhanded received unhanded, counts]; rfl
  | handed m delivers listed live _ _ counts =>
    have handed : Step.handed? ⟨sys, .proceed a, sys.after a change⟩ =
        some (sub.listener.calls sys.surroundings m) := by
      rw [handed?_of_deliver (delivers ▸ here) found, if_pos ⟨listed, live⟩]
    rw [counted_of_handed received handed, counts]
    cases sub.listener.calls sys.surroundings m <;> rfl
  | reinstalled c _ counts idle => rw [counted_of_unhanded received (unhanded idle), counts]; rfl
  | failed k fault undoes _ counts =>
    have idle : stage.delivers? = none := by rw [undoes]; rfl
    rw [counted_of_unhanded received (unhanded idle), counts]; rfl
  | removed token called _ counts =>
    have idle : stage.delivers? = none := by rcases called with rfl | ⟨k, rfl⟩ <;> rfl
    rw [counted_of_unhanded received (unhanded idle), counts]; rfl

theorem Tells.step (tells : Tells sys s sub now stage change news) (here : sys.stage? a = some stage)
    (about : stage.subscription? = some s) (found : sys.subscription? s = some sub)
    (put : change.subscriptions = sys.subscriptions.set s now) :
    Step.Tells ⟨sys, .proceed a, sys.after a change⟩ news :=
  ⟨tells.notices_eq, tells.counts_eq here about found, tells.filter_eq here found put⟩

theorem Errand.tells_step (errand : Errand sys a stage change) (here : sys.stage? a = some stage) :
    Step.Tells ⟨sys, .proceed a, sys.after a change⟩ [] := by
  obtain ⟨notices, idle, receives⟩ := errand.tells
  have unhanded : Step.handed? ⟨sys, .proceed a, sys.after a change⟩ = none := handed?_of_none here idle
  have still (t : SubscriptionId) : Step.tidings ⟨sys, .proceed a, sys.after a change⟩ t = [] :=
    tidings_of_still (fun _ _ found => errand.subscription?_after found) t
  refine ⟨by simp [notices], ?_, fun t => by simp [still]⟩
  rcases receives with ⟨m, receives, counts⟩ | ⟨receives, counts⟩
  · have received : Step.received? ⟨sys, .proceed a, sys.after a change⟩ = some m := by
      simp [Step.received?, Step.stage?, here, receives]
    rw [counted_of_received received unhanded]
    exact counts
  · have received : Step.received? ⟨sys, .proceed a, sys.after a change⟩ = none := by
      simp [Step.received?, Step.stage?, here, receives]
    rw [counted_of_unhanded received unhanded]
    exact counts

/-- While nobody has a turn, there is nothing to tell or to count. -/
theorem Drifts.tells_step (drifts : sys.Drifts next) (idle : ∀ a, move ≠ .proceed a) :
    Step.Tells ⟨sys, move, next⟩ [] := by
  have stage : Step.stage? ⟨sys, move, next⟩ = none := by
    cases move with
    | proceed a => exact absurd rfl (idle a)
    | _ => rfl
  have still (t : SubscriptionId) : Step.tidings ⟨sys, move, next⟩ t = [] := by
    refine tidings_of_still (fun s sub found => ?_) t
    have found : next.subscriptions[s]? = some sub := drifts.subscriptions ▸ found
    exact found
  refine ⟨by simp [drifts.notices], ?_, fun t => by simp [still]⟩
  rw [counted_of_unhanded (by simp [Step.received?, stage]) (by simp [Step.handed?, stage])]
  exact drifts.counts

/-- Every step tells and counts what happens in it, and nothing else. -/
theorem tells_of_step (sound : sys.Sound) (taken : sys.step? move = some next) :
    ∃ news, Step.Tells ⟨sys, move, next⟩ news := by
  by_cases turns : ∃ a, move = .proceed a
  · obtain ⟨a, rfl⟩ := turns
    obtain ⟨stage, change, here, rfl, ⟨s, sub, about, found, turn⟩ | ⟨-, errand⟩⟩ := after_of_proceed taken
    · obtain ⟨now, news, put, tells⟩ := turn.tells (sound.kept s sub found) found here
      exact ⟨news, tells.step here about found put⟩
    · exact ⟨[], errand.tells_step here⟩
  · have idle (a) : move ≠ .proceed a := fun same => turns ⟨a, same⟩
    exact ⟨[], (drifts_of_step taken idle).tells_step idle⟩

/-- After a step there is something to tell of a subscription because of somebody's turn. -/
theorem told_of_step (sound : sys.Sound) (taken : sys.step? move = some next) (found : sys.subscription? s = some sub)
    (found' : next.subscription? s = some now) (told : SubscriptionState.isTold sub.state now.state = true) :
    Step.Told ⟨sys, move, next⟩ s now := by
  have changed (same : now = sub) : False := by
    rw [same, SubscriptionState.isTold_self] at told
    cases told
  by_cases turns : ∃ a, move = .proceed a
  · obtain ⟨a, rfl⟩ := turns
    obtain ⟨stage, change, here, rfl, ⟨t, old, about, there, turn⟩ | ⟨-, errand⟩⟩ := after_of_proceed taken
    · obtain ⟨now', news, put, tells⟩ := turn.tells (sound.kept t old there) there here
      by_cases own : s = t
      · subst own
        obtain rfl := Option.some.inj (found.symm.trans there)
        obtain rfl := Option.some.inj (found'.symm.trans (subscription?_put put found))
        have tidings := tells.tidings_eq here found found'
        cases tells with
        | nothing _ _ _ silent => cases told.symm.trans silent
        | missed _ _ _ same | handed _ _ _ _ same => exact (changed same).elim
        | reinstalled c _ _ _ _ state registered => exact .reinstalled c state registered tidings
        | failed k fault undoes _ _ _ state => exact .failed a k fault ⟨rfl, undoes ▸ here⟩ state tidings
        | removed token called _ _ _ state => exact .removed a token stage ⟨rfl, here⟩ called state tidings
      · have still := (subscription?_put_of_ne (a := a) put own).trans found
        exact (changed (Option.some.inj (found'.symm.trans still))).elim
    · exact (changed (Option.some.inj (found'.symm.trans (errand.subscription?_after found)))).elim
  · have drifts := drifts_of_step taken fun a same => turns ⟨a, same⟩
    have still : next.subscriptions[s]? = some sub := drifts.subscriptions ▸ found
    exact (changed (Option.some.inj (found'.symm.trans still))).elim

/-- A message is handed over in a step that hands one to a listener, and in no other. -/
theorem handed?_iff (sound : sys.Sound) (taken : sys.step? move = some next) :
    (Step.handed? ⟨sys, move, next⟩).isSome ↔ ∃ a s m, Step.Hands ⟨sys, move, next⟩ a s m := by
  -- where a message is to be delivered, both depend on whether the subscription still counts
  have delivers {a s m} (own : move = .proceed a) (here : sys.stage? a = some (.deliver s m)) :
      (Step.handed? ⟨sys, move, next⟩).isSome ↔ Step.Hands ⟨sys, move, next⟩ a s m := by
    subst own
    obtain ⟨sub, found⟩ := subscription?_of_lt (sound.about a _ s here rfl)
    obtain ⟨next', taken', hands, -⟩ := step_deliver here found
    obtain rfl := Option.some.inj (taken.symm.trans taken')
    have turn : Step.stage? ⟨sys, .proceed a, next⟩ = some (.deliver s m) := here
    rw [hands, handed?_of_deliver turn found]
    simp
  constructor
  · intro handed
    cases own : move with
    | proceed a =>
      cases here : sys.stage? a with
      | none => simp [Step.handed?, Step.stage?, own, here] at handed
      | some stage =>
        cases stage with
        | deliver s m => exact ⟨a, s, m, own ▸ (delivers own here).mp handed⟩
        | _ => simp [Step.handed?, Step.stage?, Stage.delivers?, own, here] at handed
    | _ => simp [Step.handed?, Step.stage?, own] at handed
  · rintro ⟨a, s, m, hands⟩
    exact (delivers hands.1.1 hands.1.2).mpr hands

/-- Whoever is past receiving a message receives no other. -/
theorem received_of_step (taken : sys.step? move = some next) (here : sys.stage? a = some stage)
    (past : stage.receives? = none) : ∃ later, next.stage? a = some later ∧ later.receives? = none := by
  obtain ⟨later, there⟩ := stage?_lasts taken here
  refine ⟨later, there, ?_⟩
  rcases stage?_of_step taken there with
    ⟨before, change, rfl, here', rfl, rfl, ⟨t, sub, -, -, turn⟩ | ⟨-, errand⟩⟩ | ⟨-, before, here', drift⟩ | ⟨none, -⟩
  · cases turn <;> rfl
  · cases errand <;> rfl
  · obtain rfl := Option.some.inj (here.symm.trans here')
    cases drift <;> first | rfl | exact past
  · cases none.symm.trans here

/-- Whoever receives a message is past that. -/
theorem received_of_event {c : ConnectionId} {m : Message} (taken : sys.step? (.proceed a) = some next)
    (here : sys.stage? a = some (.event c m)) : ∃ later, next.stage? a = some later ∧ later.receives? = none := by
  obtain ⟨stage, change, here', rfl, ⟨t, sub, about, -, -⟩ | ⟨-, errand⟩⟩ := after_of_proceed taken
  · obtain rfl := Option.some.inj (here.symm.trans here')
    cases about
  · obtain rfl := Option.some.inj (here.symm.trans here')
    refine ⟨_, stage?_after_self here, ?_⟩
    cases errand <;> rfl

end

/-! ## Runs -/

/-- What is told of a run, and counted of it, is what has happened in it. -/
structure TellsAll (past : List (Step (System σ κ) (Move σ κ))) (sys : System σ κ) : Prop where
  /-- The notices of a subscription are what there was to tell of it after each step, in the order of the steps. -/
  notices : ∀ s, sys.notices.filter (·.subscription = s) = past.flatMap (·.tidings s)
  /-- When it has been registered again there is one, with the connection that is on record. -/
  reinstalled : ∀ e ∈ past, ∀ s sub now, e.before.subscription? s = some sub → e.after.subscription? s = some now →
    sub.state = .reinstalling → now.state = .active →
    ∃ c, now.registration.connection = some c ∧ e.tidings s = [.reinstalled s c]
  /-- When it could not be there is one, with the text of the fault that the attempt came to. -/
  failed : ∀ earlier e later s sub now, past = earlier ++ e :: later → e.before.subscription? s = some sub →
    e.after.subscription? s = some now → sub.state = .reinstalling → now.state = .failed →
    ∃ a c k r fault, (∃ attempt ∈ earlier, attempt.Fails a s .again c k r fault) ∧
      e.tidings s = [.failed s fault.message]
  /-- When it is removed there is one if somebody was called to remove it, and none if it could not be registered for
      the first time. -/
  removed : ∀ e ∈ past, ∀ s sub now, e.before.subscription? s = some sub → e.after.subscription? s = some now →
    sub.state ≠ .removed → now.state = .removed →
    ((∃ a token stage, e.Turns a stage ∧ (stage = .unlist s token ∨ ∃ k, stage = .dropRoute s k (.unsubscribe token))) ∧
      e.tidings s = [.removed s]) ∨ (sub.state = .installing ∧ e.tidings s = [])
  /-- Otherwise there is none. -/
  silent : ∀ e ∈ past, ∀ s sub now, e.before.subscription? s = some sub → e.after.subscription? s = some now →
    SubscriptionState.isTold sub.state now.state = false → e.tidings s = []
  reinstalls : sys.counts.reinstalls = sys.notices.countP Notice.isReinstalled
  /-- Messages are counted when they are received. -/
  messages : sys.counts.messages = past.countP (·.received?.isSome)
  /-- No call receives two. -/
  single : ∀ earlier e later a c m, past = earlier ++ e :: later → e.Turns a (.event c m) →
    ∀ e' ∈ later, ∀ c' m', ¬ e'.Turns a (.event c' m')
  /-- They are counted again when they are handed to a listener. -/
  dispatched : sys.counts.dispatched = past.countP (·.handed?.isSome)
  handed : ∀ e ∈ past, e.handed?.isSome ↔ ∃ a s m, e.Hands a s m
  errors : sys.counts.errors =
    past.countP (·.isMalformed) + past.countP (·.isRefused) + sys.notices.countP Notice.isFailed

section
variable {past : List (Step (System σ κ) (Move σ κ))} {sys : System σ κ} {limit : Timespan} {surroundings : σ}
  {s : SubscriptionId}

theorem notices_of_past (run : Past step? (System.new limit surroundings) past sys) (s : SubscriptionId) :
    sys.notices.filter (·.subscription = s) = past.flatMap (·.tidings s) := by
  induction run with
  | start => rfl
  | step move run taken ih =>
    obtain ⟨news, tells⟩ := tells_of_step (sound_of_past run) taken
    rw [show _ = _ from tells.notices, List.filter_append, ih, tells.tidings s]
    simp

/-- The counts of a run, in terms of its steps and of the notices. -/
theorem counts_of_past (run : Past step? (System.new limit surroundings) past sys) :
    sys.counts = {
      messages := past.countP (·.received?.isSome)
      dispatched := past.countP (·.handed?.isSome)
      errors := past.countP (·.isMalformed) + past.countP (·.isRefused) + sys.notices.countP Notice.isFailed
      reinstalls := sys.notices.countP Notice.isReinstalled } := by
  induction run with
  | start => rfl
  | step move run taken ih =>
    obtain ⟨news, tells⟩ := tells_of_step (sound_of_past run) taken
    have counts := tells.counts
    have notices := tells.notices
    have one (b : Bool) : b.toNat = if b then 1 else 0 := by cases b <;> rfl
    simp only at counts notices
    rw [counts, Step.counted, ih, notices]
    simp only [List.countP_append, List.countP_singleton, one, Counts.mk.injEq, true_and, and_true]
    omega

/-- When a subscription has failed, the notice has the text of the fault that an attempt to register it came to. -/
theorem failed_tidings {earlier later : List (Step (System σ κ) (Move σ κ))} {e : Step (System σ κ) (Move σ κ)}
    {sub now : Subscription σ κ} (run : Past step? (System.new limit surroundings) past sys)
    (split : past = earlier ++ e :: later) (found : e.before.subscription? s = some sub)
    (found' : e.after.subscription? s = some now) (before : sub.state = .reinstalling) (after : now.state = .failed) :
    ∃ a c k r fault, (∃ attempt ∈ earlier, attempt.Fails a s .again c k r fault) ∧
      e.tidings s = [.failed s fault.message] := by
  obtain ⟨upto, taken⟩ := run.upto split
  cases told_of_step (sound_of_past upto) taken found found' (by rw [before, after]; rfl) with
  | failed a k fault undoes _ tidings =>
    obtain ⟨waited, there, c, r, late, sub', turns, found'', fails⟩ := undoing_of_past upto undoes.2
    refine ⟨a, c, k, r, fault, ⟨waited, there, ?_⟩, tidings⟩
    rcases fails with interrupted | ⟨reply, answered, unread⟩
    · exact .inl ⟨late, turns, interrupted⟩
    · exact .inr ⟨late, reply, sub', turns, found'', answered, unread⟩
  | reinstalled _ state | removed _ _ _ _ _ state => cases after.symm.trans state

/-- When a subscription is removed, there is a notice unless it could not be registered for the first time. -/
theorem removed_tidings {e : Step (System σ κ) (Move σ κ)} {sub now : Subscription σ κ}
    (run : Past step? (System.new limit surroundings) past sys) (there : e ∈ past)
    (found : e.before.subscription? s = some sub) (found' : e.after.subscription? s = some now)
    (before : sub.state ≠ .removed) (after : now.state = .removed) :
    ((∃ a token stage, e.Turns a stage ∧ (stage = .unlist s token ∨ ∃ k, stage = .dropRoute s k (.unsubscribe token))) ∧
      e.tidings s = [.removed s]) ∨ (sub.state = .installing ∧ e.tidings s = []) := by
  obtain ⟨earlier, upto, taken⟩ := run.mem there
  have sound := sound_of_past upto
  have called (told : SubscriptionState.isTold sub.state now.state = true) :
      (∃ a token stage, e.Turns a stage ∧
        (stage = .unlist s token ∨ ∃ k, stage = .dropRoute s k (.unsubscribe token))) ∧ e.tidings s = [.removed s] := by
    cases told_of_step sound taken found found' told with
    | removed a token stage turns called _ tidings => exact ⟨⟨a, token, stage, turns, called⟩, tidings⟩
    | reinstalled _ state | failed _ _ _ _ state => cases after.symm.trans state
  obtain ⟨now', found'', same | ⟨a, -, progresses⟩⟩ := progresses_of_step sound taken found
  · obtain rfl := Option.some.inj (found'.symm.trans found'')
    exact absurd (same.symm.trans after) before
  · obtain rfl := Option.some.inj (found'.symm.trans found'')
    have next := progresses.next
    rw [after] at next called
    generalize was : sub.state = state at next called
    cases next with
    | withdraw => exact .inr ⟨rfl, tidings_of_silent found found' (by rw [was, after]; rfl)⟩
    | remove => exact .inl (called rfl)
    | giveUp => exact .inl (called rfl)

/-- Whoever has received a message receives no other. -/
theorem received_once {earlier later : List (Step (System σ κ) (Move σ κ))} {e e' : Step (System σ κ) (Move σ κ)}
    {a : ActivityId} {c c' : ConnectionId} {m m' : Message}
    (run : Past step? (System.new limit surroundings) past sys) (split : past = earlier ++ e :: later)
    (turns : e.Turns a (.event c m)) (there : e' ∈ later) : ¬ e'.Turns a (.event c' m') := by
  intro turns'
  obtain ⟨before, after, split'⟩ := List.append_of_mem there
  obtain ⟨own, here⟩ := turns
  have taken := (run.upto split).2
  rw [own] at taken
  obtain ⟨stage, here, past⟩ := ((run.since split).upto split').1.invariant
    (motive := fun sys => ∃ stage, sys.stage? a = some stage ∧ stage.receives? = none) (received_of_event taken here)
    fun _ _ _ ⟨_, here, past⟩ taken => received_of_step taken here past
  obtain rfl := Option.some.inj (here.symm.trans turns'.2)
  cases past

theorem tells_all (run : Past step? (System.new limit surroundings) past sys) : TellsAll past sys where
  notices := notices_of_past run
  reinstalled e there s sub now found found' before after := by
    obtain ⟨earlier, upto, taken⟩ := run.mem there
    cases told_of_step (sound_of_past upto) taken found found' (by rw [before, after]; rfl) with
    | reinstalled c _ registered tidings => exact ⟨c, registered, tidings⟩
    | failed _ _ _ _ state | removed _ _ _ _ _ state => cases after.symm.trans state
  failed _ _ _ _ _ _ split found found' before after := failed_tidings run split found found' before after
  removed _ there _ _ _ found found' before after := removed_tidings run there found found' before after
  silent _ _ _ _ _ found found' untold := tidings_of_silent found found' untold
  reinstalls := by rw [counts_of_past run]
  messages := by rw [counts_of_past run]
  single _ _ _ _ _ _ split turns _ there _ _ := received_once run split turns there
  dispatched := by rw [counts_of_past run]
  handed e there := by
    obtain ⟨earlier, upto, taken⟩ := run.mem there
    exact handed?_iff (sound_of_past upto) taken
  errors := by rw [counts_of_past run]

end

/-- An event for the third correlation id. -/
def talliedLater : Message := .received [⟨.unfragmented, [0, 0, 0, 0, 3, 0, 0, 0, 0, 0, 0, 0, 0, 0, 0, 0]⟩]

/-- A subscription is registered again in the second attempt and handed an event, and another message has no
    correlation id. Then the subscription is removed. -/
def eventfulLifetime : List (Move Unit Unit) :=
  lifetime.take 25 ++ [.begin (.event 1 talliedLater), .proceed 5, .proceed 5, .proceed 5, .called 5, .proceed 5,
    .begin (.event 1 (.received [])), .proceed 6, .begin (.unsubscribe 0 none), .proceed 7, .proceed 7, .proceed 7,
    .proceed 7, .send 3, .answer 3 (.ok tallied), .proceed 7]

theorem eventful_lifetime_is_told : ∃ (past : _) (sys : System Unit Unit),
    Past step? (System.new (.ofSeconds 60) ()) past sys ∧
      sys.notices = [.failed 0 Fault.cancelled.message, .reinstalled 0 1, .removed 0] ∧
      sys.counts = { messages := 2, dispatched := 1, errors := 2, reinstalls := 1 } ∧ TellsAll past sys := by
  have done : (eventfulLifetime.foldlM step? (System.new (.ofSeconds 60) ())).any fun sys =>
      sys.notices == [.failed 0 Fault.cancelled.message, .reinstalled 0 1, .removed 0] &&
        sys.counts == { messages := 2, dispatched := 1, errors := 2, reinstalls := 1 } := by
    decide +kernel
  rw [Option.any_eq_true] at done
  obtain ⟨sys, done, facts⟩ := done
  simp only [Bool.and_eq_true, beq_iff_eq] at facts
  obtain ⟨noticed, counted⟩ := facts
  obtain ⟨past, run, -⟩ := Past.of_moves done
  exact ⟨past, sys, run, noticed, counted, tells_all run⟩

end System
end Datagrid
