import Datagrid.Proofs.Subscription.Soundness

/-!
Registrations: what a turn does with the record of one, and with the response that
brings one. A registration is recorded by its subscription once its response is there,
and stays on record until it is about to be taken off, or another was to take its place.
-/
namespace Datagrid

variable {σ κ : Type}

/-- The request for a registration whose response an activity at a stage waits for. -/
def Stage.awaits? : Stage σ κ → Option RequestId
  | awaitRegistration _ _ _ _ r _ | release _ _ r => some r
  | _ => none

/-- The connection that an activity at a stage makes a registration on. -/
def Stage.target? : Stage σ κ → Option ConnectionId
  | dropRoute _ _ (.reinstall c) | addRoute _ _ c _ _ | awaitRegistration _ _ c _ _ _ => some c
  | _ => none

theorem Stage.Drift.target? {stage later : Stage σ κ} (drift : stage.Drift later) :
    later.target? = stage.target? := by
  cases drift <;> rfl

theorem Stage.Drift.awaits? {stage later : Stage σ κ} (drift : stage.Drift later) :
    later.awaits? = stage.awaits? := by
  cases drift <;> rfl

namespace System

/-- Somebody waits for the registration that a request asks for. -/
def Awaits (sys : System σ κ) (r : RequestId) : Prop :=
  ∃ a stage, sys.stage? a = some stage ∧ stage.awaits? = some r

/-- What a turn does with the registration of its subscription. -/
inductive Deals (sys : System σ κ) (s : SubscriptionId) (sub now : Subscription σ κ) (stage : Stage σ κ)
    (change : Change σ κ) : Prop where
  | stays : stage.awaits? = none → change.stage.awaits? = none → change.started = [] →
      change.requests = sys.requests → now.registration.connection = sub.registration.connection →
      now.registration.id = sub.registration.id → (∀ p k fault, stage ≠ .removeRoute s p k fault) →
      Deals sys s sub now stage change
  | asks (p : Purpose) (c : ConnectionId) (k : Int64) (m : Message) : stage = .addRoute s p c k m →
      change.stage = .awaitRegistration s p c k sys.requests.length false → change.started = [] →
      change.requests = sys.requests ++ [⟨c, m, .spawned⟩] → now = sub → Deals sys s sub now stage change
  | abandons (p : Purpose) (c : ConnectionId) (k : Int64) (r : RequestId) (late : Bool) (fault : Fault) :
      stage = .awaitRegistration s p c k r late → change.stage = .removeRoute s p k fault →
      change.started = [.release sub.listener c r] → change.requests = sys.requests → now = sub →
      Deals sys s sub now stage change
  | loses (p : Purpose) (c : ConnectionId) (k : Int64) (r : RequestId) (late : Bool)
      (reply : Except Fault Message) (fault : Fault) : stage = .awaitRegistration s p c k r late →
      sys.reply? r = some reply → reply.bind sub.listener.registration = .error fault →
      change.stage = .removeRoute s p k fault → change.started = [] → change.requests = sys.requests →
      now = sub → Deals sys s sub now stage change
  | registers (p : Purpose) (c : ConnectionId) (k : Int64) (r : RequestId) (late : Bool)
      (reply : Except Fault Message) (id : Uuid) : stage = .awaitRegistration s p c k r late →
      sys.reply? r = some reply → reply.bind sub.listener.registration = .ok id →
      (∃ outcome, change.stage = .done outcome) → change.started = [] → change.requests = sys.requests →
      now.registration = ⟨some c, some id, some k⟩ → Deals sys s sub now stage change
  /-- The making of a registration came to nothing; a former one is not on record either. -/
  | undoes (p : Purpose) (k : Int64) (fault : Fault) : stage = .removeRoute s p k fault →
      change.stage.awaits? = none → change.started = [] → change.requests = sys.requests →
      now.registration = .none → Deals sys s sub now stage change
  /-- The member is asked to take the registration off. -/
  | removes (c : ConnectionId) (id : Uuid) (m message : Message) (k : Int64) : stage.awaits? = none →
      sub.registration.connection = some c → sub.registration.id = some id →
      sub.listener.removal id = .ok m → m.setCorrelation k = .ok message →
      change.stage.awaits? = none → change.started = [] →
      change.requests = sys.requests ++ [⟨c, message, .spawned⟩] → now.registration = .none →
      (∀ p k fault, stage ≠ .removeRoute s p k fault) → Deals sys s sub now stage change
  /-- There is no registration to be taken off. -/
  | forgoes : stage.awaits? = none → change.stage.awaits? = none → change.started = [] →
      change.requests = sys.requests → sub.registration.connection = none ∨ sub.registration.id = none →
      now.registration = .none → (∀ p k fault, stage ≠ .removeRoute s p k fault) →
      Deals sys s sub now stage change

/-- There is nothing with which a member could be asked to take a registration off. -/
def Unsaid (sys : System σ κ) (listener : Listener σ κ) (id : Uuid) : Prop :=
  ∀ m message, listener.removal id = .ok m → m.setCorrelation sys.nextCorrelation ≠ .ok message

section
variable {sys : System σ κ} {a : ActivityId} {s : SubscriptionId} {sub : Subscription σ κ}
  {stage : Stage σ κ} {change : Change σ κ}

private theorem apart_of_leaves {token : Option TokenId} {table : List SubscriptionId}
    {routes : List (Int64 × Route)} (leaves : Leaves sys s sub token stage table routes) :
    stage.awaits? = none ∧ ∀ p k fault, stage ≠ .removeRoute s p k fault := by
  cases leaves <;> exact ⟨rfl, by simp⟩

private theorem apart_of_acquires {goal : Goal} (acquires : Acquires a s sub goal stage) :
    stage.awaits? = none ∧ ∀ p k fault, stage ≠ .removeRoute s p k fault := by
  cases acquires <;> exact ⟨rfl, by simp⟩

private theorem apart_of_renews {c : ConnectionId} {renewed : Subscription σ κ} {routes : List (Int64 × Route)}
    (ready : Renews sys a s sub c stage renewed routes) :
    (stage.awaits? = none ∧ ∀ p k fault, stage ≠ .removeRoute s p k fault) ∧
      renewed.registration = sub.registration := by
  cases ready with
  | unrouted acquires => exact ⟨apart_of_acquires acquires, rfl⟩
  | dropped => exact ⟨⟨rfl, by simp⟩, rfl⟩

theorem unsaid_of_failure {listener : Listener σ κ} {id : Uuid} {fault : Fault} {correlations : Nat}
    (failure : (listener.removal id = .error fault ∧ correlations = sys.correlations) ∨
      (∃ m, listener.removal id = .ok m ∧ m.setCorrelation sys.nextCorrelation = .error fault ∧
        correlations = sys.correlations + 1)) : sys.Unsaid listener id := by
  intro m message removal set
  rcases failure with ⟨refused, -⟩ | ⟨m', removal', refused, -⟩
  · simp [removal] at refused
  · obtain rfl : m = m' := Except.ok.inj (removal.symm.trans removal')
    simp [set] at refused

/-- Every turn deals with the registration of its subscription in one of these ways, as long
    as the member can be asked to take it off. -/
theorem Turn.deals (turn : Turn sys a s sub stage change) (found : sys.subscription? s = some sub)
    (said : ∀ id, ¬ sys.Unsaid sub.listener id) :
    ∃ now, change.subscriptions = sys.subscriptions.set s now ∧ Deals sys s sub now stage change := by
  have unchanged : sys.subscriptions = sys.subscriptions.set s sub := (set_found found).symm
  cases turn with
  | addRoute p c k m => exact ⟨sub, unchanged, .asks p c k m rfl rfl rfl rfl rfl⟩
  | abandon c k => exact ⟨sub, unchanged, .abandons _ c k _ _ _ rfl rfl rfl rfl rfl⟩
  | refuse c k late answered unread =>
    exact ⟨sub, unchanged, .loses _ c k _ late _ _ rfl answered.2 unread rfl rfl rfl rfl⟩
  | registerFirst c k late answered read =>
    exact ⟨_, rfl, .registers _ c k _ late _ _ rfl answered.2 read ⟨_, rfl⟩ rfl rfl rfl⟩
  | registerAgain c k late answered read =>
    exact ⟨_, rfl, .registers _ c k _ late _ _ rfl answered.2 read ⟨_, rfl⟩ rfl rfl rfl⟩
  | undoFirst token k fault => exact ⟨_, rfl, .undoes _ k fault rfl rfl rfl rfl rfl⟩
  | undoAgain k fault => exact ⟨_, rfl, .undoes _ k fault rfl rfl rfl rfl rfl⟩
  | learn acquires =>
    obtain ⟨none, apart⟩ := apart_of_acquires acquires
    exact ⟨_, rfl, .stays none rfl rfl rfl rfl rfl apart⟩
  | tooLate acquires =>
    obtain ⟨none, apart⟩ := apart_of_acquires acquires
    exact ⟨_, rfl, .stays none rfl rfl rfl rfl rfl apart⟩
  | beginRemoval acquires =>
    obtain ⟨none, apart⟩ := apart_of_acquires acquires
    exact ⟨_, rfl, .stays none rfl rfl rfl rfl rfl apart⟩
  | skip acquires =>
    obtain ⟨none, apart⟩ := apart_of_acquires acquires
    exact ⟨_, rfl, .stays none rfl rfl rfl rfl rfl apart⟩
  | dropAgain acquires =>
    obtain ⟨none, apart⟩ := apart_of_acquires acquires
    exact ⟨_, rfl, .stays none rfl rfl rfl rfl rfl apart⟩
  | installAgain ready =>
    obtain ⟨⟨none, apart⟩, same⟩ := apart_of_renews ready
    exact ⟨_, rfl, .stays none rfl rfl rfl (by rw [same]) (by rw [same]) apart⟩
  | failAgain ready =>
    obtain ⟨⟨none, apart⟩, same⟩ := apart_of_renews ready
    exact ⟨_, rfl, .stays none rfl rfl rfl (by simp [same]) (by simp [same]) apart⟩
  | removeUnregistered leaves missing =>
    obtain ⟨none, apart⟩ := apart_of_leaves leaves
    exact ⟨_, rfl, .forgoes none rfl rfl rfl missing rfl apart⟩
  | removeUnsaid _ _ _ failure => exact (said _ (unsaid_of_failure failure)).elim
  | remove leaves connected identified removal set =>
    obtain ⟨none, apart⟩ := apart_of_leaves leaves
    exact ⟨_, rfl, .removes _ _ _ _ _ none connected identified removal set rfl rfl rfl rfl apart⟩
  | unconnected => exact ⟨sub, unchanged, .stays rfl rfl rfl rfl rfl rfl (by simp)⟩
  | list => exact ⟨sub, unchanged, .stays rfl rfl rfl rfl rfl rfl (by simp)⟩
  | unready => exact ⟨sub, unchanged, .stays rfl rfl rfl rfl rfl rfl (by simp)⟩
  | missed => exact ⟨sub, unchanged, .stays rfl rfl rfl rfl rfl rfl (by simp)⟩
  | deliver => exact ⟨sub, unchanged, .stays rfl rfl rfl rfl rfl rfl (by simp)⟩
  | undeliverable => exact ⟨sub, unchanged, .stays rfl rfl rfl rfl rfl rfl (by simp)⟩
  | _ => exact ⟨_, rfl, .stays rfl rfl rfl rfl rfl rfl (by simp)⟩

/-- An activity that comes to wait for a response has asked for it, or another waits in its
    place. -/
theorem Turn.waits (turn : Turn sys a s sub stage change) :
    (change.started = [] ∧ change.stage.awaits? = none) ∨
      (change.started = [] ∧ stage.awaits? = none ∧ ∃ p c k m, stage = .addRoute s p c k m ∧
        change.stage = .awaitRegistration s p c k sys.requests.length false ∧
        change.requests = sys.requests ++ [⟨c, m, .spawned⟩]) ∨
      ∃ p c k r late, stage = .awaitRegistration s p c k r late ∧ change.stage.awaits? = none ∧
        change.started = [.release sub.listener c r] ∧ change.requests = sys.requests := by
  cases turn with
  | addRoute p c k m => exact .inr (.inl ⟨rfl, rfl, p, c, k, m, rfl, rfl, rfl⟩)
  | @abandon p c k r late => exact .inr (.inr ⟨p, c, k, r, late, rfl, rfl, rfl, rfl⟩)
  | _ => exact .inl ⟨rfl, rfl⟩

theorem Turn.listener_eq (turn : Turn sys a s sub stage change) (found : sys.subscription? s = some sub) :
    ∃ now, change.subscriptions = sys.subscriptions.set s now ∧ now.listener = sub.listener ∧
      now.request = sub.request := by
  have unchanged : sys.subscriptions = sys.subscriptions.set s sub := (set_found found).symm
  cases turn with
  | installAgain ready => cases ready <;> exact ⟨_, rfl, rfl, rfl⟩
  | failAgain ready => cases ready <;> exact ⟨_, rfl, rfl, rfl⟩
  | unconnected => exact ⟨sub, unchanged, rfl, rfl⟩
  | list => exact ⟨sub, unchanged, rfl, rfl⟩
  | unready => exact ⟨sub, unchanged, rfl, rfl⟩
  | addRoute => exact ⟨sub, unchanged, rfl, rfl⟩
  | abandon => exact ⟨sub, unchanged, rfl, rfl⟩
  | refuse => exact ⟨sub, unchanged, rfl, rfl⟩
  | missed => exact ⟨sub, unchanged, rfl, rfl⟩
  | deliver => exact ⟨sub, unchanged, rfl, rfl⟩
  | undeliverable => exact ⟨sub, unchanged, rfl, rfl⟩
  | _ => exact ⟨_, rfl, rfl, rfl⟩

/-- A route is made for the request of its subscription, under the correlation id that is new. -/
theorem Turn.request_of_adding {t : SubscriptionId} {p : Purpose} {c : ConnectionId} {k : Int64} {m : Message}
    (turn : Turn sys a s sub stage change) (adding : change.stage = .addRoute t p c k m) :
    t = s ∧ sub.request.copy.setCorrelation k = .ok m := by
  cases turn <;> cases adding
  case list current set => exact ⟨rfl, set⟩
  case installAgain ready set => exact ⟨rfl, set⟩

/-- What an errand does with a response that is waited for. -/
inductive Serves (sys : System σ κ) (stage : Stage σ κ) (change : Change σ κ) : Prop where
  | stays : stage.awaits? = none → change.stage.awaits? = none →
      (∀ begun ∈ change.started, begun.awaits? = none) → change.requests = sys.requests →
      Serves sys stage change
  | drops (listener : Listener σ κ) (c : ConnectionId) (r : RequestId) (reply : Except Fault Message)
      (fault : Fault) : stage = .release listener c r → sys.reply? r = some reply →
      reply.bind listener.registration = .error fault → change.stage.awaits? = none → change.started = [] →
      change.requests = sys.requests → Serves sys stage change
  /-- The member is asked to take the registration off that the response brings. -/
  | releases (listener : Listener σ κ) (c : ConnectionId) (r : RequestId) (reply : Except Fault Message)
      (id : Uuid) (m message : Message) (k : Int64) : stage = .release listener c r →
      sys.reply? r = some reply → reply.bind listener.registration = .ok id →
      listener.removal id = .ok m → m.setCorrelation k = .ok message → change.stage.awaits? = none →
      change.started = [] → change.requests = sys.requests ++ [⟨c, message, .sent⟩] → Serves sys stage change

theorem Errand.serves (errand : Errand sys a stage change)
    (said : ∀ listener c r id, stage = .release listener c r → ¬ sys.Unsaid listener id) :
    sys.Serves stage change := by
  cases errand with
  | nothingToRelease c replied unread => exact .drops _ c _ _ _ rfl replied unread rfl rfl rfl
  | release c replied read removal set => exact .releases _ c _ _ _ _ _ _ rfl replied read removal set rfl rfl rfl
  | @unreleased listener c r _ id _ _ _ _ failure =>
    exact (said listener c r id rfl (unsaid_of_failure failure)).elim
  | connected =>
    refine .stays rfl rfl ?_ rfl
    intro begun started
    obtain ⟨s, -, rfl⟩ := List.mem_map.mp started
    rfl
  | hear => exact .stays rfl rfl (by simp [waiting, Stage.awaits?]) rfl
  | catchUp => exact .stays rfl rfl (by simp [waiting, Stage.awaits?]) rfl
  | pump => exact .stays rfl rfl (by simp [waiting, Stage.awaits?]) rfl
  | removeNext => exact .stays rfl rfl (by simp [waiting, Stage.awaits?]) rfl
  | _ => exact .stays rfl rfl (by simp) rfl

/-! ## Who waits for a response -/

variable {r : RequestId}

/-- Whoever waits after a turn has come to wait in it, waited before, or has begun. -/
theorem awaits_after (here : sys.stage? a = some stage) :
    (sys.after a change).Awaits r ↔ change.stage.awaits? = some r ∨
      (∃ b later, b ≠ a ∧ sys.stage? b = some later ∧ later.awaits? = some r) ∨
      ∃ begun ∈ change.started, begun.awaits? = some r := by
  constructor
  · rintro ⟨b, later, there, waits⟩
    rcases stage?_after_cases there with ⟨-, rfl⟩ | ⟨other, before⟩ | ⟨-, -, begun⟩
    · exact .inl waits
    · exact .inr (.inl ⟨b, later, other, before, waits⟩)
    · exact .inr (.inr ⟨later, begun, waits⟩)
  · rintro (waits | ⟨b, later, other, before, waits⟩ | ⟨begun, started, waits⟩)
    · exact ⟨a, _, stage?_after_self here, waits⟩
    · exact ⟨b, later, stage?_after_of_some other before, waits⟩
    · obtain ⟨b, there⟩ := stage?_of_started here started
      exact ⟨b, begun, there, waits⟩

/-- No two activities wait for the same response. -/
def Alone (sys : System σ κ) : Prop :=
  ∀ a b stage later r, sys.stage? a = some stage → sys.stage? b = some later →
    stage.awaits? = some r → later.awaits? = some r → a = b

/-- A turn that waits for what it waited for before. -/
theorem awaits_still (here : sys.stage? a = some stage)
    (same : ∀ r, stage.awaits? = some r ↔ change.stage.awaits? = some r ∨
      ∃ begun ∈ change.started, begun.awaits? = some r) :
    (sys.after a change).Awaits r ↔ sys.Awaits r := by
  rw [awaits_after here]
  constructor
  · rintro (waits | ⟨b, later, -, before, waits⟩ | begun)
    · exact ⟨a, stage, here, (same r).mpr (.inl waits)⟩
    · exact ⟨b, later, before, waits⟩
    · exact ⟨a, stage, here, (same r).mpr (.inr begun)⟩
  · rintro ⟨b, later, before, waits⟩
    by_cases own : b = a
    · subst own
      obtain rfl := Option.some.inj (here.symm.trans before)
      rcases (same r).mp waits with waits | begun
      · exact .inl waits
      · exact .inr (.inr begun)
    · exact .inr (.inl ⟨b, later, own, before, waits⟩)

/-- A turn that comes to wait. -/
theorem awaits_begun {q : RequestId} (here : sys.stage? a = some stage) (idle : stage.awaits? = none)
    (waits : change.stage.awaits? = some q) (started : change.started = []) :
    (sys.after a change).Awaits r ↔ sys.Awaits r ∨ r = q := by
  rw [awaits_after here, waits, started]
  constructor
  · rintro (same | ⟨b, later, -, before, waits⟩ | ⟨begun, there, -⟩)
    · exact .inr (Option.some.inj same).symm
    · exact .inl ⟨b, later, before, waits⟩
    · simp at there
  · rintro (⟨b, later, before, waits⟩ | rfl)
    · refine .inr (.inl ⟨b, later, ?_, before, waits⟩)
      rintro rfl
      obtain rfl := Option.some.inj (here.symm.trans before)
      simp [idle] at waits
    · exact .inl rfl

/-- A turn that has waited long enough. -/
theorem awaits_over {q : RequestId} (alone : sys.Alone) (here : sys.stage? a = some stage)
    (waited : stage.awaits? = some q) (leaves : change.stage.awaits? = none) (started : change.started = []) :
    (sys.after a change).Awaits r ↔ sys.Awaits r ∧ r ≠ q := by
  rw [awaits_after here]
  constructor
  · rintro (waits | ⟨b, later, other, before, waits⟩ | ⟨begun, there, -⟩)
    · simp [leaves] at waits
    · refine ⟨⟨b, later, before, waits⟩, ?_⟩
      rintro rfl
      exact other (alone b a later stage r before here waits waited)
    · simp [started] at there
  · rintro ⟨⟨b, later, before, waits⟩, apart⟩
    refine .inr (.inl ⟨b, later, ?_, before, waits⟩)
    rintro rfl
    obtain rfl := Option.some.inj (here.symm.trans before)
    exact apart (Option.some.inj (waits.symm.trans waited))

theorem Alone.move (alone : sys.Alone) (here : sys.stage? a = some stage)
    (started : ∀ begun ∈ change.started, begun.awaits? = none)
    (fresh : ∀ r, change.stage.awaits? = some r → stage.awaits? = some r ∨ ¬ sys.Awaits r) :
    (sys.after a change).Alone := by
  have other {b later r} (own : b ≠ a) (before : sys.stage? b = some later) (waits : later.awaits? = some r)
      (again : change.stage.awaits? = some r) : False := by
    rcases fresh r again with waited | never
    · exact own (alone b a later stage r before here waits waited)
    · exact never ⟨b, later, before, waits⟩
  intro b d stage' later r there there' waits waits'
  rcases stage?_after_cases there with ⟨rfl, rfl⟩ | ⟨own, before⟩ | ⟨-, -, begun⟩
  · rcases stage?_after_cases there' with ⟨rfl, -⟩ | ⟨own, before⟩ | ⟨-, -, begun⟩
    · rfl
    · exact (other own before waits' waits).elim
    · simp [started later begun] at waits'
  · rcases stage?_after_cases there' with ⟨rfl, rfl⟩ | ⟨-, before'⟩ | ⟨-, -, begun⟩
    · exact (other own before waits waits').elim
    · exact alone b d stage' later r before before' waits waits'
    · simp [started later begun] at waits'
  · simp [started stage' begun] at waits

/-- Another may wait for the response in one's place. -/
theorem Alone.handOver {begun : Stage σ κ} (alone : sys.Alone) (here : sys.stage? a = some stage)
    (leaves : change.stage.awaits? = none) (started : change.started = [begun])
    (same : begun.awaits? = stage.awaits?) : (sys.after a change).Alone := by
  have place {b later} (own : b ≠ a) (there : (sys.after a change).stage? b = some later) :
      sys.stage? b = some later ∨ (b = sys.activities.length ∧ later = begun) := by
    rw [stage?_after_of_ne own, started] at there
    by_cases old : b < sys.activities.length
    · rw [List.getElem?_append_left old] at there
      exact .inl there
    · have beyond := Nat.not_lt.mp old
      rw [List.getElem?_append_right beyond] at there
      obtain ⟨bound, same⟩ := List.getElem?_eq_some_iff.mp there
      have within := Nat.le_of_lt_succ bound
      have last := Nat.le_antisymm (Nat.le_of_sub_eq_zero (Nat.le_zero.mp within)) beyond
      exact .inr ⟨last, by simpa using same.symm⟩
  have own {b later r} (there : (sys.after a change).stage? b = some later) (waits : later.awaits? = some r) :
      b ≠ a := by
    rintro rfl
    rw [stage?_after_self here] at there
    obtain rfl := Option.some.inj there
    simp [leaves] at waits
  intro b d stage' later r there there' waits waits'
  rcases place (own there waits) there with before | ⟨rfl, rfl⟩
  · rcases place (own there' waits') there' with before' | ⟨rfl, rfl⟩
    · exact alone b d stage' later r before before' waits waits'
    · exact (own there waits (alone b a stage' stage r before here waits (same ▸ waits'))).elim
  · rcases place (own there' waits') there' with before' | ⟨rfl, -⟩
    · exact (own there' waits' (alone d a later stage r before' here waits' (same ▸ waits))).elim
    · rfl

/-- An errand brings nobody to wait for a registration. -/
theorem Errand.idle (errand : Errand sys a stage change) :
    change.stage.awaits? = none ∧ ∀ begun ∈ change.started, begun.awaits? = none := by
  cases errand with
  | connected c =>
    refine ⟨rfl, ?_⟩
    intro begun started
    obtain ⟨s, -, rfl⟩ := List.mem_map.mp started
    rfl
  | hear => exact ⟨rfl, by simp [waiting, Stage.awaits?]⟩
  | catchUp => exact ⟨rfl, by simp [waiting, Stage.awaits?]⟩
  | pump => exact ⟨rfl, by simp [waiting, Stage.awaits?]⟩
  | removeNext => exact ⟨rfl, by simp [waiting, Stage.awaits?]⟩
  | _ => exact ⟨rfl, by simp⟩

theorem Alone.turn (alone : sys.Alone) (new : ¬ sys.Awaits sys.requests.length) (here : sys.stage? a = some stage)
    (turn : Turn sys a s sub stage change) : (sys.after a change).Alone := by
  rcases turn.waits with
    ⟨began, leaves⟩ | ⟨began, -, p, c, k, m, -, coming, -⟩ | ⟨p, c, k, r, late, rfl, leaves, began, -⟩
  · exact alone.move here (by simp [began]) (by simp [leaves])
  · refine alone.move here (by simp [began]) ?_
    intro r waits
    rw [coming] at waits
    obtain rfl := Option.some.inj waits
    exact .inr new
  · exact alone.handOver here leaves began rfl

theorem Alone.errand (alone : sys.Alone) (here : sys.stage? a = some stage) (errand : Errand sys a stage change) :
    (sys.after a change).Alone :=
  alone.move here errand.idle.2 (by simp [errand.idle.1])

theorem Alone.drifts {next : System σ κ} (alone : sys.Alone) (drifts : sys.Drifts next) : next.Alone := by
  intro b d stage later r there there' waits waits'
  rcases drifts.new b stage there with ⟨stage₀, before, drift⟩ | ⟨-, beginning, rfl⟩
  · rcases drifts.new d later there' with ⟨later₀, before', drift'⟩ | ⟨-, beginning, rfl⟩
    · exact alone b d _ _ r before before' (drift.awaits? ▸ waits) (drift'.awaits? ▸ waits')
    · cases beginning <;> simp [Beginning.stage, Stage.awaits?] at waits'
  · cases beginning <;> simp [Beginning.stage, Stage.awaits?] at waits

theorem Drifts.awaits_iff {next : System σ κ} (drifts : sys.Drifts next) : next.Awaits r ↔ sys.Awaits r := by
  constructor
  · rintro ⟨b, later, there, waits⟩
    rcases drifts.new b later there with ⟨stage, before, drift⟩ | ⟨-, beginning, rfl⟩
    · exact ⟨b, stage, before, drift.awaits? ▸ waits⟩
    · cases beginning <;> simp [Beginning.stage, Stage.awaits?] at waits
  · rintro ⟨b, stage, before, waits⟩
    obtain ⟨later, there, drift⟩ := drifts.old b stage before
    exact ⟨b, later, there, drift.awaits?.trans waits⟩
end

/-! ## Where a registration is made -/

/-- A registration is made again on another connection than the former one was on. -/
def Aimed (sys : System σ κ) : Prop :=
  ∀ a stage s sub c former, sys.stage? a = some stage → stage.subscription? = some s →
    stage.target? = some c → sys.subscription? s = some sub →
    sub.registration.connection = some former → former ≠ c

section
variable {sys next : System σ κ} {a b : ActivityId} {s : SubscriptionId} {sub now : Subscription σ κ}
  {stage later : Stage σ κ} {change : Change σ κ}

theorem engages?_of_target? {c : ConnectionId} (about : stage.subscription? = some s)
    (aims : stage.target? = some c) : stage.engages? = some s ∧ ∀ goal, stage ≠ .queue s goal := by
  cases stage <;> simp_all [Stage.target?, Stage.subscription?, Stage.engages?]

/-- Whoever has a lock, no other changes the registration. -/
theorem Handles.registration_eq (handles : Handles sys a s sub stage change now)
    (has : sub.holder = some b) (other : b ≠ a) : now.registration = sub.registration := by
  have apart (had : sub.holder = some a ∨ sub.holder = none) : False := by
    rcases had with own | none
    · exact other (Option.some.inj (has.symm.trans own))
    · simp [has] at none
  cases handles with
  | keeps had => exact (apart had).elim
  | releases had => exact (apart had).elim
  | waits _ _ same => rw [same]
  | passes _ _ same => rw [same]

private theorem Turn.aims {c : ConnectionId} (turn : Turn sys a s sub stage change) (kept : sys.Kept s sub)
    (found : sys.subscription? s = some sub) (here : sys.stage? a = some stage)
    (before : ∀ former, stage.target? = some c → sub.registration.connection = some former → former ≠ c)
    (aims : change.stage.target? = some c) :
    ∃ now, change.subscriptions = sys.subscriptions.set s now ∧
      ∀ former, now.registration.connection = some former → former ≠ c := by
  have unchanged : sys.subscriptions = sys.subscriptions.set s sub := (set_found found).symm
  cases turn with
  | list token _ set =>
    obtain ⟨-, -, -, none⟩ := kept.has here rfl (by simp)
    exact ⟨sub, unchanged, by simp [none, Registration.none]⟩
  | addRoute p c' k m => exact ⟨sub, unchanged, fun former => before former aims⟩
  | dropAgain acquires unspared routed =>
    refine ⟨_, rfl, ?_⟩
    rintro former connected rfl
    obtain rfl := Option.some.inj aims
    obtain ⟨-, settled⟩ := acquires.before kept here
    exact unspared (.inr ⟨(settled.active_of_routed routed).1, connected⟩)
  | installAgain ready =>
    cases ready with
    | unrouted acquires unspared routed =>
      refine ⟨_, rfl, ?_⟩
      intro former connected
      obtain ⟨-, settled⟩ := acquires.before kept here
      obtain ⟨-, -, -, none⟩ := settled.failed_of_unrouted (fun gone => unspared (.inl gone)) routed
      simp [none, Registration.none] at connected
    | dropped => exact ⟨sub, rfl, fun former => before former aims⟩
  | _ => simp [Stage.target?] at aims

/-- A subscription stays, and keeps its listener and its request. -/
theorem listener_of_step {move : Move σ κ} (taken : sys.step? move = some next) (found : sys.subscription? s = some sub) :
    ∃ now, next.subscription? s = some now ∧ now.listener = sub.listener ∧ now.request = sub.request := by
  by_cases turns : ∃ a, move = .proceed a
  · obtain ⟨a, rfl⟩ := turns
    obtain ⟨stage, change, -, rfl, ⟨t, old, -, found', turn⟩ | ⟨-, errand⟩⟩ := after_of_proceed taken
    · obtain ⟨now, put, heard, asked⟩ := turn.listener_eq found'
      by_cases same : s = t
      · subst same
        obtain rfl := Option.some.inj (found.symm.trans found')
        exact ⟨now, subscription?_put put found, heard, asked⟩
      · exact ⟨sub, (subscription?_put_of_ne put same).trans found, rfl, rfl⟩
    · exact ⟨sub, errand.subscription?_after found, rfl, rfl⟩
  · have drifts := drifts_of_step taken fun a same => turns ⟨a, same⟩
    have found : next.subscriptions[s]? = some sub := drifts.subscriptions ▸ found
    exact ⟨sub, found, rfl, rfl⟩

theorem listener_since {rest : List (Step (System σ κ) (Move σ κ))} (goesOn : Past step? sys rest next)
    (found : sys.subscription? s = some sub) :
    ∃ now, next.subscription? s = some now ∧ now.listener = sub.listener ∧ now.request = sub.request := by
  induction goesOn with
  | start => exact ⟨sub, found, rfl, rfl⟩
  | step move _ taken ih =>
    obtain ⟨now, found, heard, asked⟩ := ih
    obtain ⟨later, found, heard', asked'⟩ := listener_of_step taken found
    exact ⟨later, found, heard'.trans heard, asked'.trans asked⟩

/-- Who subscribes on a connection before anyone else makes the first subscription. -/
theorem first_subscription (limit : Timespan) (surroundings : σ) (c : ConnectionId) {listener : Listener σ κ}
    {request : Message} (asked : listener.request = .ok request) :
    ∃ next sub, [Move.use (some c), .begin (.subscribe listener none), .proceed 0].foldlM step? (new limit surroundings) =
      some next ∧ next.subscription? 0 = some sub ∧ sub.listener = listener := by
  let asking := ({ new limit surroundings with current := some c }.begin (.subscribe listener none)).2
  have turned : asking.step? (.proceed 0) = some (asking.create 0 listener request none) := by
    simp [asking, step?, proceed, stage?, begin, new, Stage.subscription?, proceedAlone, isFired, asked]
  refine ⟨asking.create 0 listener request none, created 0 listener request, ?_, rfl, rfl⟩
  show (asking.step? (.proceed 0) >>= pure) = _
  rw [turned]
  rfl

/-- A subscription has had its listener at any time before. -/
theorem listener_before {past : List (Step (System σ κ) (Move σ κ))} {e : Step (System σ κ) (Move σ κ)}
    (run : Past step? sys past next) (there : e ∈ past) (before : e.before.subscription? s = some sub)
    (found : next.subscription? s = some now) : sub.listener = now.listener := by
  obtain ⟨earlier, later, split⟩ := List.append_of_mem there
  obtain ⟨mid, after, same, -⟩ := listener_of_step (run.upto split).2 before
  obtain ⟨last, found', same', -⟩ := listener_since (run.since split) after
  obtain rfl := Option.some.inj (found.symm.trans found')
  rw [same', same]

/-- Nobody else changes the registration of a subscription while an activity has its lock. -/
theorem registration_of_step {t : SubscriptionId} {move : Move σ κ} (sound : sys.Sound)
    (taken : sys.step? move = some next) (other : move ≠ .proceed b) (before : sys.stage? b = some later)
    (engaged : later.engages? = some t) (past : ∀ goal, later ≠ .queue t goal)
    (there : next.subscription? t = some now) :
    ∃ old, sys.subscription? t = some old ∧ now.registration = old.registration := by
  by_cases turns : ∃ a, move = .proceed a
  · obtain ⟨a, rfl⟩ := turns
    have other : b ≠ a := by
      rintro rfl
      exact other rfl
    obtain ⟨stage, change, here, rfl, ⟨s, sub, -, found, turn⟩ | ⟨-, errand⟩⟩ := after_of_proceed taken
    · have kept := sound.kept s sub found
      obtain ⟨now', put, handles⟩ := turn.handles kept found here
      by_cases same : t = s
      · subst same
        obtain ⟨has, -⟩ := kept.has before engaged past
        obtain rfl := Option.some.inj (there.symm.trans (subscription?_put put found))
        exact ⟨sub, found, handles.registration_eq has other⟩
      · rw [subscription?_put_of_ne put same] at there
        exact ⟨now, there, rfl⟩
    · rcases errand.subscription?_cases there with there | ⟨rfl, -⟩
      · exact ⟨now, there, rfl⟩
      · have bound := sound.about b later _ before (Stage.subscription?_of_engages? engaged)
        exact absurd bound (Nat.lt_irrefl _)
  · have drifts := drifts_of_step taken (by simpa using turns)
    have there : sys.subscriptions[t]? = some now := drifts.subscriptions ▸ there
    exact ⟨now, there, rfl⟩

theorem Aimed.step {move : Move σ κ} (aimed : sys.Aimed) (sound : sys.Sound)
    (taken : sys.step? move = some next) : next.Aimed := by
  intro b later t sub c former there named aims found connected
  rcases stage?_of_step taken there with
    ⟨stage, change, rfl, here, rfl, rfl, kind⟩ | ⟨other, stage, before, drift⟩ | ⟨-, begins⟩
  · rcases kind with ⟨s, old, about, found', turn⟩ | ⟨-, errand⟩
    · obtain rfl := turn.stage_about named
      obtain ⟨now, put, apart⟩ := turn.aims (sound.kept t old found') found' here
        (fun former aims => aimed b stage t old c former here about aims found') aims
      obtain rfl := Option.some.inj (found.symm.trans (subscription?_put put found'))
      exact apart former connected
    · obtain ⟨engaged, -⟩ := engages?_of_target? named aims
      rcases errand.quiet with quiet | ⟨listener, token, request, -, rfl, -⟩
      · simp [quiet.leaves] at engaged
      · simp [Stage.target?] at aims
  · have named := drift.subscription? ▸ named
    have aims := drift.target? ▸ aims
    obtain ⟨engaged, past⟩ := engages?_of_target? named aims
    obtain ⟨old, found', same⟩ := registration_of_step sound taken other before engaged past found
    exact aimed b stage t old c former before named aims found' (same ▸ connected)
  · obtain ⟨engaged, -⟩ := engages?_of_target? named aims
    simp [begins.engages?] at engaged

end
end System
end Datagrid
