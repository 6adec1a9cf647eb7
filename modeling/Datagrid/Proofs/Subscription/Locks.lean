import Datagrid.Proofs.Subscription.Steps
import Datagrid.Proofs.Wire.Headers

/-!
Locks: who has the lock of a subscription, who waits for it, and what is so of the
subscription while an activity has its lock and while none has. A turn keeps the
lock that it handles in order.
-/
namespace Datagrid

variable {σ κ : Type}

/-- The subscription whose lock an activity at a stage has, or waits for. -/
def Stage.engages? : Stage σ κ → Option SubscriptionId
  | enter s _ | list s _ | addRoute s _ _ _ _ | awaitRegistration s _ _ _ _ _ | removeRoute s _ _ _
  | withdraw s _ | queue s _ | dropRoute s _ _ | unlist s _ | awaitRemoval s _ _ _ => some s
  | _ => none

namespace Subscription

/-- Those at the lock of a subscription, the one who has it first. -/
def line (sub : Subscription σ κ) : List ActivityId := sub.holder.toList ++ sub.waiting

/-- The request of a subscription takes any correlation id. -/
def Takes (sub : Subscription σ κ) : Prop :=
  ∀ correlation, ∃ message, sub.request.copy.setCorrelation correlation = .ok message

/-- A subscription that nobody is changing. -/
inductive Settled (sub : Subscription σ κ) (listed : Prop) : Prop where
  | active {connection : ConnectionId} {id : Uuid} {correlation : Int64} :
      sub.state = .active → listed → sub.Takes →
      sub.registration = ⟨some connection, some id, some correlation⟩ → Settled sub listed
  | failed : sub.state = .failed → listed → sub.Takes → sub.registration = .none → Settled sub listed
  | removed : sub.state = .removed → ¬ listed → sub.registration = .none → Settled sub listed

/-- A subscription whose registration is being made. One that had a registration
    before keeps it in mind until the new one is there. -/
def Installing (sub : Subscription σ κ) (listed : Prop) : Purpose → Prop
  | .first _ => sub.state = .installing ∧ listed ∧ sub.Takes ∧ sub.registration = .none
  | .again => sub.state = .reinstalling ∧ listed ∧ sub.Takes ∧
      (sub.registration = .none ∨
        ∃ connection id, sub.registration = ⟨some connection, some id, none⟩)

end Subscription

/-- What is so of a subscription while an activity at a stage has its lock. -/
def Stage.Holds (sub : Subscription σ κ) (listed : Prop) : Stage σ κ → Prop
  | enter _ _ => sub.state = .created ∧ ¬ listed ∧ sub.registration = .none
  | list _ _ => sub.state = .installing ∧ ¬ listed ∧ sub.registration = .none
  | addRoute _ purpose _ _ _ => sub.Installing listed purpose
  | awaitRegistration _ purpose _ _ _ _ => sub.Installing listed purpose
  | removeRoute _ purpose _ _ => sub.Installing listed purpose
  | withdraw _ _ => sub.state = .installing ∧ listed ∧ sub.registration = .none
  | queue _ _ => sub.Settled listed
  | unlist _ _ => sub.Settled listed ∧ sub.state ≠ .removed
  | dropRoute _ _ (.reinstall _) => sub.Installing listed .again
  | dropRoute _ _ (.unsubscribe _) => sub.state = .active ∧ ¬ listed ∧
      ∃ connection id, sub.registration = ⟨some connection, some id, none⟩
  | dropRoute _ _ .registration => False
  | awaitRemoval _ _ _ _ => sub.state = .removed ∧ ¬ listed ∧ sub.registration = .none
  | _ => True

section
variable {s : SubscriptionId} {sub now : Subscription σ κ} {stage later : Stage σ κ} {listed : Prop}

theorem Subscription.Settled.congr (settled : sub.Settled listed) (state : now.state = sub.state)
    (registration : now.registration = sub.registration) (request : now.request = sub.request) :
    now.Settled listed := by
  have takes (h : sub.Takes) : now.Takes := by
    unfold Subscription.Takes at h ⊢
    rw [request]
    exact h
  cases settled with
  | active live there ready registered =>
    exact .active (state.trans live) there (takes ready) (registration.trans registered)
  | failed broken there ready none => exact .failed (state.trans broken) there (takes ready) (registration.trans none)
  | removed gone absent none => exact .removed (state.trans gone) absent (registration.trans none)

/-- Only a registered subscription has a route. -/
theorem Subscription.Settled.active_of_routed (settled : sub.Settled listed) {correlation : Int64}
    (routed : sub.registration.correlation = some correlation) :
    sub.state = .active ∧ listed ∧ sub.Takes ∧
      ∃ connection id, sub.registration = ⟨some connection, some id, some correlation⟩ := by
  cases settled with
  | @active connection id k live there takes registered =>
    obtain rfl : k = correlation := by simpa [registered] using routed
    exact ⟨live, there, takes, connection, id, registered⟩
  | failed _ _ _ none => simp [none, Registration.none] at routed
  | removed _ _ none => simp [none, Registration.none] at routed

/-- A subscription without a route that is not removed has failed. -/
theorem Subscription.Settled.failed_of_unrouted (settled : sub.Settled listed) (live : sub.state ≠ .removed)
    (unrouted : sub.registration.correlation = none) :
    sub.state = .failed ∧ listed ∧ sub.Takes ∧ sub.registration = .none := by
  cases settled with
  | active _ _ _ registered => simp [registered] at unrouted
  | failed broken there takes none => exact ⟨broken, there, takes, none⟩
  | removed gone => exact absurd gone live

/-- What is so of a subscription does not depend on who is at its lock. -/
theorem Stage.Holds.congr (holds : stage.Holds sub listed) (state : now.state = sub.state)
    (registration : now.registration = sub.registration) (request : now.request = sub.request) :
    stage.Holds now listed := by
  have settled (h : sub.Settled listed) : now.Settled listed := h.congr state registration request
  have installing (purpose : Purpose) (h : sub.Installing listed purpose) : now.Installing listed purpose := by
    cases purpose <;> simpa [Subscription.Installing, Subscription.Takes, state, registration, request] using h
  cases stage with
  | addRoute _ purpose => exact installing purpose holds
  | awaitRegistration _ purpose => exact installing purpose holds
  | removeRoute _ purpose => exact installing purpose holds
  | queue => exact settled holds
  | unlist => exact ⟨settled holds.1, by rw [state]; exact holds.2⟩
  | dropRoute _ _ goal =>
    cases goal with
    | reinstall => exact installing .again holds
    | unsubscribe => simpa [Stage.Holds, state, registration] using holds
    | registration => exact holds
  | enter => simpa [Stage.Holds, state, registration] using holds
  | list => simpa [Stage.Holds, state, registration] using holds
  | withdraw => simpa [Stage.Holds, state, registration] using holds
  | awaitRemoval => simpa [Stage.Holds, state, registration] using holds
  | _ => trivial

theorem Stage.subscription?_of_engages? (engaged : stage.engages? = some s) : stage.subscription? = some s := by
  cases stage <;> simp_all [Stage.engages?, Stage.subscription?]

/-- Whatever an activity drifts through is the same to the locks. -/
theorem Stage.Drift.engages? (drift : stage.Drift later) : later.engages? = stage.engages? := by
  cases drift <;> rfl

theorem Stage.Begins.engages? (begins : stage.Begins) : stage.engages? = none := by
  cases begins with
  | asked beginning => cases beginning <;> rfl
  | _ => rfl

theorem Stage.Drift.subscription? (drift : stage.Drift later) : later.subscription? = stage.subscription? := by
  cases drift <;> rfl

theorem Stage.Drift.holds (drift : stage.Drift later) (holds : stage.Holds sub listed) :
    later.Holds sub listed := by
  cases drift <;> exact holds

end

namespace System

/-- The lock of a subscription is in order. -/
structure Kept (sys : System σ κ) (s : SubscriptionId) (sub : Subscription σ κ) : Prop where
  engaged : ∀ a stage, sys.stage? a = some stage → stage.engages? = some s → a ∈ sub.line
  holder : ∀ a, sub.holder = some a →
    ∃ stage, sys.stage? a = some stage ∧ stage.engages? = some s ∧ stage.Holds sub (s ∈ sys.table)
  waiting : ∀ a ∈ sub.waiting, ∃ goal, sys.stage? a = some (.queue s goal)
  distinct : sub.line.Nodup
  free : sub.holder = none → sub.waiting = [] ∧ sub.Settled (s ∈ sys.table)

/-! ## Who has a lock -/

section
variable {sys next : System σ κ} {a b : ActivityId} {s : SubscriptionId} {sub now : Subscription σ κ}
  {stage : Stage σ κ}

theorem Kept.unique (kept : sys.Kept s sub) (has : sub.holder = some a) (waits : a ∈ sub.waiting) : False := by
  have distinct := kept.distinct
  simp [Subscription.line, has, waits] at distinct

/-- A subscription that counts is not removed, whatever is being done with it. -/
theorem Kept.live (kept : sys.Kept s sub) (listed : s ∈ sys.table) : sub.state ≠ .removed := by
  intro gone
  cases has : sub.holder with
  | none => cases (kept.free has).2 <;> simp_all
  | some a =>
    obtain ⟨stage, -, engaged, holds⟩ := kept.holder a has
    have settled (h : sub.Settled (s ∈ sys.table)) : False := by cases h <;> simp_all
    have installing (purpose : Purpose) (h : sub.Installing (s ∈ sys.table) purpose) : False := by
      cases purpose <;> simp_all [Subscription.Installing]
    cases stage with
    | addRoute _ purpose => exact installing purpose holds
    | awaitRegistration _ purpose => exact installing purpose holds
    | removeRoute _ purpose => exact installing purpose holds
    | queue => exact settled holds
    | unlist => exact holds.2 gone
    | dropRoute _ _ goal =>
      cases goal with
      | reinstall => exact installing .again holds
      | unsubscribe => exact holds.2.1 listed
      | registration => exact holds
    | enter => exact holds.2.1 listed
    | list => exact holds.2.1 listed
    | withdraw => simp [holds.1] at gone
    | awaitRemoval => exact holds.2.1 listed
    | _ => cases engaged

/-- An activity past the line for a lock has it. -/
theorem Kept.has (kept : sys.Kept s sub) (here : sys.stage? a = some stage) (engaged : stage.engages? = some s)
    (past : ∀ goal, stage ≠ .queue s goal) :
    sub.holder = some a ∧ stage.Holds sub (s ∈ sys.table) := by
  have inLine := kept.engaged a stage here engaged
  simp only [Subscription.line, List.mem_append, Option.mem_toList] at inLine
  rcases inLine with has | waits
  · obtain ⟨stage', here', -, holds⟩ := kept.holder a has
    rw [here] at here'
    obtain rfl := Option.some.inj here'
    exact ⟨has, holds⟩
  · obtain ⟨goal, queued⟩ := kept.waiting a waits
    rw [here] at queued
    exact absurd (Option.some.inj queued) (past goal)

end

/-! ## What a turn does with a lock -/

/-- What a turn does with the lock of its subscription. -/
inductive Handles (sys : System σ κ) (a : ActivityId) (s : SubscriptionId) (sub : Subscription σ κ)
    (stage : Stage σ κ) (change : Change σ κ) (now : Subscription σ κ) : Prop where
  /-- The lock is had, and stays with the activity. -/
  | keeps : sub.holder = some a ∨ sub.holder = none → now.holder = some a → now.waiting = sub.waiting →
      change.stage.engages? = some s → change.stage.Holds now (s ∈ change.table) →
      Handles sys a s sub stage change now
  /-- The lock is had, and goes to the next. -/
  | releases : sub.holder = some a ∨ sub.holder = none → now.holder = sub.waiting.head? →
      now.waiting = sub.waiting.drop 1 → change.stage.engages? = none → now.Settled (s ∈ change.table) →
      Handles sys a s sub stage change now
  /-- Another has the lock. -/
  | waits {goal : Goal} {holder : ActivityId} : sub.holder = some holder → stage.engages? = none →
      now = { sub with waiting := sub.waiting ++ [a] } → change.stage = .queue s goal →
      change.table = sys.table → Handles sys a s sub stage change now
  /-- The turn is none of the lock's. -/
  | passes : stage.engages? = none → change.stage.engages? = none → now = sub →
      change.table = sys.table → Handles sys a s sub stage change now

section
variable {sys : System σ κ} {a : ActivityId} {s : SubscriptionId} {sub : Subscription σ κ}
  {stage : Stage σ κ} {change : Change σ κ}

theorem Acquires.before {goal : Goal} (acquires : Acquires a s sub goal stage)
    (kept : sys.Kept s sub) (here : sys.stage? a = some stage) :
    (sub.holder = some a ∨ sub.holder = none) ∧ sub.Settled (s ∈ sys.table) := by
  cases acquires with
  | free none => exact ⟨.inr none, (kept.free none).2⟩
  | given has =>
    obtain ⟨stage, there, -, holds⟩ := kept.holder a has
    rw [here] at there
    obtain rfl := Option.some.inj there
    exact ⟨.inl has, holds⟩

theorem mem_tableBut {t : SubscriptionId} : t ∈ sys.tableBut s ↔ t ∈ sys.table ∧ t ≠ s := by
  simp [tableBut]

private theorem Leaves.before {token : Option TokenId} {table : List SubscriptionId}
    {routes : List (Int64 × Route)} (leaves : Leaves sys s sub token stage table routes)
    (kept : sys.Kept s sub) (here : sys.stage? a = some stage) : sub.holder = some a ∧ s ∉ table := by
  cases leaves with
  | unrouted => exact ⟨(kept.has here rfl (by simp)).1, by simp [mem_tableBut]⟩
  | dropped =>
    obtain ⟨has, -, absent, -⟩ := kept.has here rfl (by simp)
    exact ⟨has, absent⟩

/-- Whoever has nothing to do with a lock gives it to the next. -/
private theorem Acquires.passes {goal : Goal} {outcome : Outcome} (acquires : Acquires a s sub goal stage)
    (kept : sys.Kept s sub) (here : sys.stage? a = some stage) :
    Handles sys a s sub stage (sys.putting s (sub.ownedBy a).unlocked (.done outcome))
      (sub.ownedBy a).unlocked := by
  obtain ⟨had, settled⟩ := acquires.before kept here
  exact .releases had rfl rfl rfl (settled.congr rfl rfl rfl)

/-- A subscription that loses its route is about to be registered again. -/
private theorem Acquires.drops {connection : ConnectionId} {correlation : Int64}
    (acquires : Acquires a s sub (.reinstall connection) stage) (kept : sys.Kept s sub)
    (here : sys.stage? a = some stage) (routed : sub.registration.correlation = some correlation) :
    Handles sys a s sub stage
      (sys.putting s ((sub.ownedBy a).inState .reinstalling).unrouted
        (.dropRoute s correlation (.reinstall connection)))
      ((sub.ownedBy a).inState .reinstalling).unrouted := by
  obtain ⟨had, settled⟩ := acquires.before kept here
  obtain ⟨-, listed, takes, connection, id, registered⟩ := settled.active_of_routed routed
  exact .keeps had rfl rfl rfl ⟨rfl, listed, takes, .inr ⟨connection, id, by simp [registered]⟩⟩

/-- A subscription that is about to be registered again is kept by whoever does it. -/
theorem Renews.installing {connection : ConnectionId} {renewed : Subscription σ κ} {routes : List (Int64 × Route)}
    (ready : Renews sys a s sub connection stage renewed routes) (kept : sys.Kept s sub)
    (here : sys.stage? a = some stage) :
    (sub.holder = some a ∨ sub.holder = none) ∧ renewed.holder = some a ∧ renewed.waiting = sub.waiting ∧
      renewed.Installing (s ∈ sys.table) .again := by
  cases ready with
  | unrouted acquires unspared routed =>
    obtain ⟨had, settled⟩ := acquires.before kept here
    obtain ⟨-, listed, takes, none⟩ := settled.failed_of_unrouted (fun gone => unspared (.inl gone)) routed
    exact ⟨had, rfl, rfl, rfl, listed, takes, .inl none⟩
  | dropped correlation =>
    obtain ⟨has, installing⟩ := kept.has here rfl (by simp)
    exact ⟨.inl has, has, rfl, installing⟩

/-- A subscription that is about to be registered again has a request that takes any correlation id. -/
theorem Renews.takes {connection : ConnectionId} {renewed : Subscription σ κ} {routes : List (Int64 × Route)}
    (ready : Renews sys a s sub connection stage renewed routes) (kept : sys.Kept s sub)
    (here : sys.stage? a = some stage) : sub.Takes := by
  obtain ⟨-, -, -, -, -, takes, -⟩ := ready.installing kept here
  cases ready <;> exact takes

/-- Every turn handles the lock of its subscription in one of these ways. -/
theorem Turn.handles (turn : Turn sys a s sub stage change) (kept : sys.Kept s sub)
    (found : sys.subscription? s = some sub) (here : sys.stage? a = some stage) :
    ∃ now, change.subscriptions = sys.subscriptions.set s now ∧ Handles sys a s sub stage change now := by
  have unchanged : sys.subscriptions = sys.subscriptions.set s sub := (set_found found).symm
  cases turn with
  | enter token =>
    obtain ⟨has, -, absent, none⟩ := kept.has here rfl (by simp)
    exact ⟨_, rfl, .keeps (.inl has) has rfl rfl ⟨rfl, absent, none⟩⟩
  | unconnected token | unready token =>
    obtain ⟨has, state, absent, none⟩ := kept.has here rfl (by simp)
    exact ⟨_, unchanged, .keeps (.inl has) has rfl rfl ⟨state, by simp, none⟩⟩
  | list token _ set =>
    obtain ⟨has, state, absent, none⟩ := kept.has here rfl (by simp)
    exact ⟨_, unchanged, .keeps (.inl has) has rfl rfl
      ⟨state, by simp, Message.setCorrelation_any set, none⟩⟩
  | addRoute | abandon | refuse =>
    obtain ⟨has, installing⟩ := kept.has here rfl (by simp)
    exact ⟨_, unchanged, .keeps (.inl has) has rfl rfl installing⟩
  | registerFirst | registerAgain =>
    obtain ⟨has, -, there, takes, -⟩ := kept.has here rfl (by simp)
    exact ⟨_, rfl, .releases (.inl has) rfl rfl rfl (.active rfl there takes rfl)⟩
  | undoFirst =>
    obtain ⟨has, state, there, -, -⟩ := kept.has here rfl (by simp)
    exact ⟨_, rfl, .keeps (.inl has) has rfl rfl ⟨state, there, rfl⟩⟩
  | undoAgain =>
    obtain ⟨has, -, there, takes, -⟩ := kept.has here rfl (by simp)
    exact ⟨_, rfl, .releases (.inl has) rfl rfl rfl (.failed rfl there takes rfl)⟩
  | withdraw =>
    obtain ⟨has, -, -, none⟩ := kept.has here rfl (by simp)
    exact ⟨_, rfl, .releases (.inl has) rfl rfl rfl (.removed rfl (by simp [mem_tableBut]) none)⟩
  | wait goal has => exact ⟨_, rfl, .waits has rfl rfl rfl rfl⟩
  | learn acquires | tooLate acquires | skip acquires => exact ⟨_, rfl, acquires.passes kept here⟩
  | beginRemoval acquires live =>
    obtain ⟨had, settled⟩ := acquires.before kept here
    exact ⟨_, rfl, .keeps had rfl rfl rfl ⟨settled.congr rfl rfl rfl, live⟩⟩
  | dropAgain acquires unspared routed => exact ⟨_, rfl, acquires.drops kept here routed⟩
  | installAgain ready =>
    obtain ⟨had, has, line, installing⟩ := ready.installing kept here
    exact ⟨_, rfl, .keeps had has line rfl installing⟩
  | failAgain ready refused =>
    -- a request that took one correlation id would have taken this one
    obtain ⟨message, set⟩ := ready.takes kept here sys.nextCorrelation
    cases set.symm.trans refused
  | unlist token routed =>
    obtain ⟨has, settled, -⟩ := kept.has here rfl (by simp)
    obtain ⟨live, -, -, connection, id, registered⟩ := settled.active_of_routed routed
    exact ⟨_, rfl, .keeps (.inl has) has rfl rfl
      ⟨live, by simp [mem_tableBut], connection, id, by simp [registered]⟩⟩
  | removeUnregistered leaves | removeUnsaid leaves =>
    obtain ⟨has, absent⟩ := leaves.before kept here
    exact ⟨_, rfl, .releases (.inl has) rfl rfl rfl (.removed rfl absent rfl)⟩
  | remove leaves =>
    obtain ⟨has, absent⟩ := leaves.before kept here
    exact ⟨_, rfl, .keeps (.inl has) has rfl rfl ⟨rfl, absent, rfl⟩⟩
  | learnDropped =>
    obtain ⟨-, never⟩ := kept.has here rfl (by simp)
    exact never.elim
  | interrupted | answered =>
    obtain ⟨has, state, absent, none⟩ := kept.has here rfl (by simp)
    exact ⟨_, rfl, .releases (.inl has) rfl rfl rfl (.removed state absent none)⟩
  | missed | deliver | undeliverable => exact ⟨_, unchanged, .passes rfl rfl rfl rfl⟩
end

/-! ## Locks stay in order -/

section
variable {sys next : System σ κ} {a : ActivityId} {s : SubscriptionId} {sub now : Subscription σ κ}
  {stage : Stage σ κ} {change : Change σ κ}

/-- A lock stays in order where those at it only drift. -/
theorem Kept.drift (kept : sys.Kept s sub) (listed : s ∈ next.table ↔ s ∈ sys.table)
    (old : ∀ b stage, sys.stage? b = some stage → stage.engages? = some s →
      ∃ later, next.stage? b = some later ∧ stage.Drift later)
    (new : ∀ b later, next.stage? b = some later → later.engages? = some s →
      ∃ stage, sys.stage? b = some stage ∧ stage.Drift later) : next.Kept s sub := by
  have listed := propext listed
  refine ⟨?_, ?_, ?_, kept.distinct, ?_⟩
  · intro b later there engaged
    obtain ⟨stage, here, drift⟩ := new b later there engaged
    exact kept.engaged b stage here (drift.engages? ▸ engaged)
  · intro b has
    obtain ⟨stage, here, engaged, holds⟩ := kept.holder b has
    obtain ⟨later, there, drift⟩ := old b stage here engaged
    exact ⟨later, there, drift.engages?.trans engaged, listed ▸ drift.holds holds⟩
  · intro b waits
    obtain ⟨goal, here⟩ := kept.waiting b waits
    obtain ⟨later, there, drift⟩ := old b _ here rfl
    cases drift
    exact ⟨goal, there⟩
  · intro none
    obtain ⟨empty, settled⟩ := kept.free none
    exact ⟨empty, listed ▸ settled⟩

/-- What the others at a lock do after a turn, they did before it. -/
private theorem Kept.others (kept : sys.Kept s sub) {b : ActivityId} {later : Stage σ κ} (other : b ≠ a)
    (started : ∀ begun ∈ change.started, begun.engages? = none)
    (there : (sys.after a change).stage? b = some later) (engaged : later.engages? = some s) :
    sys.stage? b = some later ∧ b ∈ sub.line := by
  rcases stage?_after_cases there with ⟨same, -⟩ | ⟨-, before⟩ | ⟨-, -, begun⟩
  · exact absurd same other
  · exact ⟨before, kept.engaged b later before engaged⟩
  · simp [started later begun] at engaged

/-- Nobody who has a lock, or finds it free, waits for it. -/
private theorem Kept.ne_of_waits (kept : sys.Kept s sub) (had : sub.holder = some a ∨ sub.holder = none)
    {b : ActivityId} (waits : b ∈ sub.waiting) : b ≠ a := by
  rintro rfl
  rcases had with has | none
  · exact kept.unique has waits
  · simp [(kept.free none).1] at waits

private theorem Kept.waits_of_line (kept : sys.Kept s sub) (had : sub.holder = some a ∨ sub.holder = none)
    {b : ActivityId} (other : b ≠ a) (inLine : b ∈ sub.line) : b ∈ sub.waiting := by
  rcases had with has | none
  · simpa [Subscription.line, has, Ne.symm other, other] using inLine
  · simp [Subscription.line, none, (kept.free none).1] at inLine

private theorem Kept.keeps (kept : sys.Kept s sub) (here : sys.stage? a = some stage)
    (started : ∀ begun ∈ change.started, begun.engages? = none)
    (had : sub.holder = some a ∨ sub.holder = none) (has : now.holder = some a)
    (waiting : now.waiting = sub.waiting) (engages : change.stage.engages? = some s)
    (holds : change.stage.Holds now (s ∈ change.table)) : (sys.after a change).Kept s now := by
  have own : (sys.after a change).stage? a = some change.stage := stage?_after_self here
  refine ⟨?_, ?_, ?_, ?_, ?_⟩
  · intro b later there engaged
    by_cases same : b = a
    · simp [same, Subscription.line, has]
    · obtain ⟨-, inLine⟩ := kept.others same started there engaged
      simp [Subscription.line, waiting, kept.waits_of_line had same inLine]
  · intro b holder
    obtain rfl : a = b := Option.some.inj (has.symm.trans holder)
    exact ⟨_, own, engages, holds⟩
  · intro b waits
    rw [waiting] at waits
    obtain ⟨goal, there⟩ := kept.waiting b waits
    exact ⟨goal, stage?_after_of_some (kept.ne_of_waits had waits) there⟩
  · have distinct := kept.distinct
    have apart : a ∉ sub.waiting := fun waits => kept.ne_of_waits had waits rfl
    simp only [Subscription.line, List.nodup_append] at distinct
    simp [Subscription.line, has, waiting, distinct.2.1, apart]
  · intro none
    simp [has] at none

private theorem Kept.releases (kept : sys.Kept s sub) (here : sys.stage? a = some stage)
    (started : ∀ begun ∈ change.started, begun.engages? = none)
    (had : sub.holder = some a ∨ sub.holder = none) (next : now.holder = sub.waiting.head?)
    (waiting : now.waiting = sub.waiting.drop 1) (leaves : change.stage.engages? = none)
    (settled : now.Settled (s ∈ change.table)) : (sys.after a change).Kept s now := by
  have own : (sys.after a change).stage? a = some change.stage := stage?_after_self here
  have line : now.line = sub.waiting := by
    rw [Subscription.line, next, waiting]
    cases sub.waiting <;> rfl
  have queued {b} (waits : b ∈ sub.waiting) : ∃ goal, (sys.after a change).stage? b = some (.queue s goal) := by
    obtain ⟨goal, there⟩ := kept.waiting b waits
    exact ⟨goal, stage?_after_of_some (kept.ne_of_waits had waits) there⟩
  refine ⟨?_, ?_, ?_, ?_, ?_⟩
  · intro b later there engaged
    have other : b ≠ a := by
      rintro rfl
      rw [own] at there
      obtain rfl := Option.some.inj there
      simp [leaves] at engaged
    obtain ⟨-, inLine⟩ := kept.others other started there engaged
    rw [line]
    exact kept.waits_of_line had other inLine
  · intro b has
    rw [next] at has
    obtain ⟨goal, there⟩ := queued (List.mem_of_head? has)
    exact ⟨_, there, rfl, settled⟩
  · intro b waits
    rw [waiting] at waits
    exact queued (List.mem_of_mem_drop waits)
  · rw [line]
    exact (List.nodup_append.mp kept.distinct).2.1
  · intro none
    rw [next] at none
    rw [waiting, List.head?_eq_none_iff.mp none]
    exact ⟨rfl, settled⟩

private theorem Kept.not_mem_line (kept : sys.Kept s sub) (here : sys.stage? a = some stage)
    (apart : stage.engages? = none) : a ∉ sub.line := by
  intro inLine
  simp only [Subscription.line, List.mem_append, Option.mem_toList] at inLine
  rcases inLine with first | waits
  · obtain ⟨stage', here', engages, -⟩ := kept.holder a first
    rw [here] at here'
    obtain rfl := Option.some.inj here'
    simp [apart] at engages
  · obtain ⟨goal', here'⟩ := kept.waiting a waits
    rw [here] at here'
    obtain rfl := Option.some.inj here'
    simp [Stage.engages?] at apart

private theorem Kept.waits {goal : Goal} {holder : ActivityId} (kept : sys.Kept s sub)
    (here : sys.stage? a = some stage) (started : ∀ begun ∈ change.started, begun.engages? = none)
    (has : sub.holder = some holder) (apart : stage.engages? = none)
    (later : change.stage = .queue s goal) (table : change.table = sys.table) :
    (sys.after a change).Kept s { sub with waiting := sub.waiting ++ [a] } := by
  have own : (sys.after a change).stage? a = some change.stage := stage?_after_self here
  have absent := kept.not_mem_line here apart
  have other {b} (inLine : b ∈ sub.line) : b ≠ a := by
    rintro rfl
    exact absent inLine
  refine ⟨?_, ?_, ?_, ?_, ?_⟩
  · intro b later' there engaged
    by_cases same : b = a
    · simp [same, Subscription.line]
    · obtain ⟨-, inLine⟩ := kept.others same started there engaged
      simp only [Subscription.line, List.mem_append] at inLine ⊢
      rcases inLine with first | waits
      · exact .inl first
      · exact .inr (.inl waits)
  · intro b first
    obtain ⟨stage', there, engages, holds⟩ := kept.holder b first
    refine ⟨stage', stage?_after_of_some (other (kept.engaged b stage' there engages)) there, engages, ?_⟩
    have listed : (sys.after a change).table = sys.table := table
    rw [listed]
    exact holds.congr rfl rfl rfl
  · intro b waits
    rcases List.mem_append.mp waits with before | last
    · obtain ⟨goal', there⟩ := kept.waiting b before
      exact ⟨goal', stage?_after_of_some (other (kept.engaged b _ there rfl)) there⟩
    · obtain rfl : b = a := by simpa using last
      exact ⟨goal, later ▸ own⟩
  · have distinct := kept.distinct
    simp only [Subscription.line] at distinct absent ⊢
    rw [← List.append_assoc]
    refine List.nodup_append.mpr ⟨distinct, by simp, ?_⟩
    rintro b inLine c single rfl
    obtain rfl : b = a := by simpa using single
    exact absent inLine
  · intro none
    simp [has] at none

theorem Kept.passes (kept : sys.Kept s sub) (here : sys.stage? a = some stage)
    (started : ∀ begun ∈ change.started, begun.engages? = none) (apart : stage.engages? ≠ some s)
    (leaves : change.stage.engages? ≠ some s) (listed : s ∈ change.table ↔ s ∈ sys.table) :
    (sys.after a change).Kept s sub := by
  have own : (sys.after a change).stage? a = some change.stage := stage?_after_self here
  refine kept.drift listed ?_ ?_
  · intro b stage' there engaged
    have other : b ≠ a := by
      rintro rfl
      rw [here] at there
      obtain rfl := Option.some.inj there
      exact apart engaged
    exact ⟨stage', stage?_after_of_some other there, .same _⟩
  · intro b later there engaged
    have other : b ≠ a := by
      rintro rfl
      rw [own] at there
      obtain rfl := Option.some.inj there
      exact leaves engaged
    exact ⟨later, (kept.others other started there engaged).1, .same _⟩

/-- The lock that a turn handles stays in order. -/
theorem Kept.handled (kept : sys.Kept s sub) (here : sys.stage? a = some stage)
    (started : ∀ begun ∈ change.started, begun.engages? = none)
    (handles : Handles sys a s sub stage change now) : (sys.after a change).Kept s now := by
  cases handles with
  | keeps had has waiting engages holds => exact kept.keeps here started had has waiting engages holds
  | releases had next waiting leaves settled => exact kept.releases here started had next waiting leaves settled
  | waits has apart same later table =>
    subst same
    exact kept.waits here started has apart later table
  | passes apart leaves same table =>
    subst same
    exact kept.passes here started (by simp [apart]) (by simp [leaves]) (by rw [table])
end

end System
end Datagrid
