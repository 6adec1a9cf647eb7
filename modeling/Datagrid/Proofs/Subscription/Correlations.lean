import Datagrid.Proofs.Subscription.Soundness

/-!
Correlation ids: who minds which. A correlation id is minded by the subscription
whose registration has it, or by the activity that makes or drops its route. While
fewer ids have been used than there are, no two subscriptions mind the same one,
and every route belongs to the subscription that minds it.
-/
namespace Datagrid

variable {σ κ : Type}

/-- The correlation id whose route an activity at a stage makes or drops, and the
    subscription it is for. -/
def Stage.minds? : Stage σ κ → Option (SubscriptionId × Int64)
  | addRoute s _ _ k _ | awaitRegistration s _ _ k _ _ | removeRoute s _ k _ | dropRoute s k _ => some (s, k)
  | _ => none

/-- A route with a correlation id of a subscription ends when an activity has its turn
    at such a stage. -/
inductive Stage.Ends (s : SubscriptionId) (c : ConnectionId) (k : Int64) : Stage σ κ → Prop where
  /-- The making of the registration came to nothing. -/
  | undone (purpose : Purpose) (fault : Fault) : Ends s c k (.removeRoute s purpose k fault)
  /-- The connection is lost. -/
  | disconnected : Ends s c k (.react (.disconnected c))
  /-- The registration is about to be made again. -/
  | reinstalled (connection : ConnectionId) : Ends s c k (.dropRoute s k (.reinstall connection))
  /-- The subscription is about to be removed. -/
  | unsubscribed (token : Option TokenId) : Ends s c k (.dropRoute s k (.unsubscribe token))

namespace System

/-- A correlation id that has been used. -/
def Issued (sys : System σ κ) (k : Int64) : Prop := ∃ n, 0 < n ∧ n ≤ sys.correlations ∧ k = Int64.ofNat n

/-- A correlation id that a subscription minds, or an activity for it. -/
def Minds (sys : System σ κ) (s : SubscriptionId) (k : Int64) : Prop :=
  (∃ sub, sys.subscription? s = some sub ∧ sub.registration.correlation = some k) ∨
    ∃ a stage, sys.stage? a = some stage ∧ stage.minds? = some (s, k)

/-- Every route is minded by its subscription, or by an activity for it. -/
def Minded (sys : System σ κ) : Prop := ∀ k s c, (k, ⟨s, c⟩) ∈ sys.routes → sys.Minds s k

/-- Correlation ids are not mixed up. -/
structure Apart (sys : System σ κ) : Prop where
  issued : ∀ s k, sys.Minds s k → sys.Issued k
  single : ∀ s t k, sys.Minds s k → sys.Minds t k → s = t
  routed : ∀ k s c, (k, ⟨s, c⟩) ∈ sys.routes → sys.Minds s k
  /-- A route that is about to be made is not there yet. -/
  coming : ∀ a s purpose c k message, sys.stage? a = some (.addRoute s purpose c k message) →
    ∀ route, (k, route) ∉ sys.routes
  keys : (sys.routes.map (·.1)).Nodup

/-! ## What a turn does with correlation ids -/

/-- What a turn does with the correlation ids that its subscription minds. -/
inductive Tracks (sys : System σ κ) (s : SubscriptionId) (sub now : Subscription σ κ) (stage : Stage σ κ)
    (change : Change σ κ) : Prop where
  | stays : now.registration.correlation = sub.registration.correlation →
      change.stage.minds? = stage.minds? → (∀ t p c k m, change.stage ≠ .addRoute t p c k m) →
      change.routes = sys.routes → Tracks sys s sub now stage change
  /-- From the registration to the activity. -/
  | takes (k : Int64) : sub.registration.correlation = some k → now.registration.correlation = none →
      stage.minds? = none → change.stage.minds? = some (s, k) → (∀ t p c k m, change.stage ≠ .addRoute t p c k m) →
      change.routes = sys.routes → Tracks sys s sub now stage change
  /-- From the activity to the registration. -/
  | gives (k : Int64) : stage.minds? = some (s, k) → sub.registration.correlation = none →
      now.registration.correlation = some k → change.stage.minds? = none → change.routes = sys.routes →
      Tracks sys s sub now stage change
  /-- A new one, for a route to come; if there was another, its route is dropped. -/
  | issues (p : Purpose) (c : ConnectionId) (m : Message) :
      sub.registration.correlation = none → now.registration.correlation = none →
      change.stage = .addRoute s p c sys.nextCorrelation m → m.correlation = .ok sys.nextCorrelation →
      change.correlations = sys.correlations + 1 →
      (stage.minds? = none ∧ change.routes = sys.routes) ∨
        (∃ k, stage.minds? = some (s, k) ∧ (∀ c, stage.Ends s c k) ∧ change.routes = sys.routesBut k) →
      Tracks sys s sub now stage change
  | adds (p : Purpose) (c : ConnectionId) (k : Int64) (m : Message) :
      stage = .addRoute s p c k m → change.stage = .awaitRegistration s p c k sys.requests.length false →
      sub.registration.correlation = none → now.registration.correlation = none →
      change.routes = (k, ⟨s, c⟩) :: sys.routesBut k → Tracks sys s sub now stage change
  | drops (k : Int64) : stage.minds? = some (s, k) → (∀ c, stage.Ends s c k) →
      sub.registration.correlation = none → now.registration.correlation = none →
      change.stage.minds? = none → change.routes = sys.routesBut k → Tracks sys s sub now stage change

section
variable {sys : System σ κ} {a : ActivityId} {s : SubscriptionId} {sub now : Subscription σ κ}
  {stage : Stage σ κ} {change : Change σ κ}

theorem correlation_of_installing {listed : Prop} (purpose : Purpose)
    (installing : sub.Installing listed purpose) : sub.registration.correlation = none := by
  cases purpose with
  | first =>
    obtain ⟨-, -, -, none⟩ := installing
    simp [none, Registration.none]
  | again =>
    obtain ⟨-, -, -, none | ⟨connection, id, former⟩⟩ := installing
    · simp [none, Registration.none]
    · simp [former]

/-- While an activity minds a correlation id, the registration has none. -/
theorem Kept.unrouted {k : Int64} (kept : sys.Kept s sub) (here : sys.stage? a = some stage)
    (minds : stage.minds? = some (s, k)) : sub.holder = some a ∧ sub.registration.correlation = none := by
  cases stage <;> simp only [Stage.minds?, Option.some.injEq, Prod.mk.injEq, reduceCtorEq] at minds
  case addRoute purpose c k' m =>
    obtain ⟨rfl, rfl⟩ := minds
    obtain ⟨has, installing⟩ := kept.has here rfl (by simp)
    exact ⟨has, correlation_of_installing purpose installing⟩
  case awaitRegistration purpose c k' request late =>
    obtain ⟨rfl, rfl⟩ := minds
    obtain ⟨has, installing⟩ := kept.has here rfl (by simp)
    exact ⟨has, correlation_of_installing purpose installing⟩
  case removeRoute purpose k' fault =>
    obtain ⟨rfl, rfl⟩ := minds
    obtain ⟨has, installing⟩ := kept.has here rfl (by simp)
    exact ⟨has, correlation_of_installing purpose installing⟩
  case dropRoute k' goal =>
    obtain ⟨rfl, rfl⟩ := minds
    obtain ⟨has, holds⟩ := kept.has here rfl (by simp)
    refine ⟨has, ?_⟩
    cases goal with
    | unsubscribe =>
      obtain ⟨-, -, c, id, former⟩ := holds
      simp [former]
    | reinstall => exact correlation_of_installing .again holds
    | registration => exact holds.elim

private theorem tracks_remove {token : Option TokenId} {table : List SubscriptionId}
    {routes : List (Int64 × Route)} (leaves : Leaves sys s sub token stage table routes)
    (kept : sys.Kept s sub) (here : sys.stage? a = some stage)
    (gone : now.registration.correlation = none) (later : change.stage.minds? = none)
    (rerouted : change.routes = routes) : Tracks sys s sub now stage change := by
  have apart (t p c k m) : change.stage ≠ .addRoute t p c k m := by
    intro adding
    simp [adding, Stage.minds?] at later
  cases leaves with
  | unrouted none => exact .stays (gone.trans none.symm) later apart rerouted
  | dropped k =>
    exact .drops k rfl (fun _ => .unsubscribed token) (kept.unrouted here rfl).2 gone later rerouted

theorem Turn.tracks (turn : Turn sys a s sub stage change) (kept : sys.Kept s sub)
    (found : sys.subscription? s = some sub) (here : sys.stage? a = some stage) :
    ∃ now, change.subscriptions = sys.subscriptions.set s now ∧ Tracks sys s sub now stage change := by
  have unchanged : sys.subscriptions = sys.subscriptions.set s sub := (set_found found).symm
  cases turn with
  | list token _ set =>
    obtain ⟨-, -, -, bare⟩ := kept.has here rfl (by simp)
    have none : sub.registration.correlation = none := by simp [bare, Registration.none]
    exact ⟨sub, unchanged, .issues _ _ _ none none rfl (Message.correlation_of_setCorrelation set) rfl
      (.inl ⟨rfl, rfl⟩)⟩
  | addRoute purpose c k m =>
    have none := (kept.unrouted here rfl).2
    exact ⟨sub, unchanged, .adds purpose c k m rfl rfl none none rfl⟩
  | registerFirst c k =>
    exact ⟨_, rfl, .gives k rfl (kept.unrouted here rfl).2 rfl rfl rfl⟩
  | registerAgain c k =>
    exact ⟨_, rfl, .gives k rfl (kept.unrouted here rfl).2 rfl rfl rfl⟩
  | undoFirst token k fault =>
    exact ⟨_, rfl, .drops k rfl (fun _ => .undone _ fault) (kept.unrouted here rfl).2 rfl rfl rfl⟩
  | undoAgain k fault =>
    exact ⟨_, rfl, .drops k rfl (fun _ => .undone _ fault) (kept.unrouted here rfl).2 rfl rfl rfl⟩
  | learn acquires =>
    have none : stage.minds? = none := by cases acquires <;> rfl
    exact ⟨_, rfl, .stays rfl none.symm (by simp) rfl⟩
  | tooLate acquires =>
    have none : stage.minds? = none := by cases acquires <;> rfl
    exact ⟨_, rfl, .stays rfl none.symm (by simp) rfl⟩
  | beginRemoval acquires =>
    have none : stage.minds? = none := by cases acquires <;> rfl
    exact ⟨_, rfl, .stays rfl none.symm (by simp) rfl⟩
  | skip acquires =>
    have none : stage.minds? = none := by cases acquires <;> rfl
    exact ⟨_, rfl, .stays rfl none.symm (by simp) rfl⟩
  | @dropAgain _ _ k acquires _ routed =>
    have none : stage.minds? = none := by cases acquires <;> rfl
    exact ⟨_, rfl, .takes k routed rfl none rfl (by simp) rfl⟩
  | installAgain ready set =>
    refine ⟨_, rfl, ?_⟩
    have stamped := Message.correlation_of_setCorrelation set
    cases ready with
    | unrouted acquires _ unrouted =>
      have none : stage.minds? = none := by cases acquires <;> rfl
      exact .issues _ _ _ unrouted unrouted rfl stamped rfl (.inl ⟨none, rfl⟩)
    | dropped k =>
      have none := (kept.unrouted here rfl).2
      exact .issues _ _ _ none none rfl stamped rfl (.inr ⟨k, rfl, fun _ => .reinstalled _, rfl⟩)
  | failAgain ready =>
    refine ⟨_, rfl, ?_⟩
    cases ready with
    | unrouted acquires _ unrouted =>
      have none : stage.minds? = none := by cases acquires <;> rfl
      exact .stays rfl none.symm (by simp) rfl
    | dropped k =>
      have none := (kept.unrouted here rfl).2
      exact .drops k rfl (fun _ => .reinstalled _) none none rfl rfl
  | @unlist token k routed => exact ⟨_, rfl, .takes k routed rfl rfl rfl (by simp) rfl⟩
  | removeUnregistered leaves => exact ⟨_, rfl, tracks_remove leaves kept here rfl rfl rfl⟩
  | removeUnsaid leaves => exact ⟨_, rfl, tracks_remove leaves kept here rfl rfl rfl⟩
  | remove leaves => exact ⟨_, rfl, tracks_remove leaves kept here rfl rfl rfl⟩
  | learnDropped =>
    obtain ⟨-, never⟩ := kept.has here rfl (by simp)
    exact never.elim
  | unconnected => exact ⟨sub, unchanged, .stays rfl rfl (by simp) rfl⟩
  | unready => exact ⟨sub, unchanged, .stays rfl rfl (by simp) rfl⟩
  | abandon => exact ⟨sub, unchanged, .stays rfl rfl (by simp) rfl⟩
  | refuse => exact ⟨sub, unchanged, .stays rfl rfl (by simp) rfl⟩
  | missed => exact ⟨sub, unchanged, .stays rfl rfl (by simp) rfl⟩
  | deliver => exact ⟨sub, unchanged, .stays rfl rfl (by simp) rfl⟩
  | undeliverable => exact ⟨sub, unchanged, .stays rfl rfl (by simp) rfl⟩
  | _ => exact ⟨_, rfl, .stays rfl rfl (by simp) rfl⟩

private theorem subscription?_of_minds {t : SubscriptionId} {k : Int64} (minds : stage.minds? = some (t, k)) :
    stage.subscription? = some t := by
  cases stage <;> simp_all [Stage.minds?, Stage.subscription?]

section
variable (turn : Turn sys a s sub stage change) (put : change.subscriptions = sys.subscriptions.set s now)
  (tracks : Tracks sys s sub now stage change) (here : sys.stage? a = some stage)
  (about : stage.subscription? = some s) (found : sys.subscription? s = some sub)

include turn put tracks here found in
/-- Whoever minds a correlation id after a turn minded it before, or it is new. -/
private theorem minds_before {t : SubscriptionId} {k : Int64} (minds : (sys.after a change).Minds t k) :
    sys.Minds t k ∨ (t = s ∧ k = sys.nextCorrelation ∧ change.correlations = sys.correlations + 1) := by
  rcases minds with ⟨sub', there, registered⟩ | ⟨b, later, there, minds⟩
  · by_cases same : t = s
    · subst same
      rw [subscription?_put put found] at there
      obtain rfl := Option.some.inj there
      cases tracks with
      | stays kept => exact .inl (.inl ⟨sub, found, kept ▸ registered⟩)
      | gives k' own _ given =>
        obtain rfl : k' = k := Option.some.inj (given.symm.trans registered)
        exact .inl (.inr ⟨a, stage, here, own⟩)
      | takes _ _ none => simp [none] at registered
      | issues _ _ _ _ none => simp [none] at registered
      | adds _ _ _ _ _ _ _ none => simp [none] at registered
      | drops _ _ _ _ none => simp [none] at registered
    · rw [subscription?_put_of_ne put same] at there
      exact .inl (.inl ⟨sub', there, registered⟩)
  · rcases stage?_after_cases there with ⟨rfl, rfl⟩ | ⟨-, before⟩ | ⟨-, -, begun⟩
    · cases tracks with
      | stays _ kept => exact .inl (.inr ⟨b, stage, here, kept ▸ minds⟩)
      | takes k' had _ _ taken =>
        obtain ⟨rfl, rfl⟩ : s = t ∧ k' = k := by simpa [taken] using minds
        exact .inl (.inl ⟨sub, found, had⟩)
      | gives _ _ _ _ none => simp [none] at minds
      | issues _ _ _ _ _ adding _ used =>
        obtain ⟨rfl, rfl⟩ : s = t ∧ sys.nextCorrelation = k := by simpa [adding, Stage.minds?] using minds
        exact .inr ⟨rfl, rfl, used⟩
      | adds _ _ _ _ before after =>
        subst before
        rw [after] at minds
        exact .inl (.inr ⟨b, _, here, minds⟩)
      | drops _ _ _ _ _ none => simp [none] at minds
    · exact .inl (.inr ⟨b, later, before, minds⟩)
    · obtain ⟨c, request, rfl⟩ := turn.started_eq begun
      simp [Stage.minds?] at minds

include put tracks here about found in
/-- Whoever minds a correlation id minds it after a turn, or its route is dropped. -/
private theorem minds_after {t : SubscriptionId} {k : Int64} (minds : sys.Minds t k) :
    (sys.after a change).Minds t k ∨ (t = s ∧ change.routes = sys.routesBut k) := by
  have own : (sys.after a change).stage? a = some change.stage := stage?_after_self here
  rcases minds with ⟨sub', there, registered⟩ | ⟨b, stage', there, minds⟩
  · by_cases same : t = s
    · subst same
      rw [found] at there
      obtain rfl := Option.some.inj there
      cases tracks with
      | stays kept => exact .inl (.inl ⟨now, subscription?_put put found, kept.trans registered⟩)
      | takes k' had _ _ taken =>
        obtain rfl : k' = k := Option.some.inj (had.symm.trans registered)
        exact .inl (.inr ⟨a, _, own, taken⟩)
      | gives _ _ none => simp [none] at registered
      | issues _ _ _ none => simp [none] at registered
      | adds _ _ _ _ _ _ none => simp [none] at registered
      | drops _ _ _ none => simp [none] at registered
    · exact .inl (.inl ⟨sub', by rw [subscription?_put_of_ne put same, there], registered⟩)
  · by_cases self : b = a
    · subst self
      rw [here] at there
      obtain rfl := Option.some.inj there
      obtain rfl : s = t := Option.some.inj (about.symm.trans (subscription?_of_minds minds))
      cases tracks with
      | stays _ kept => exact .inl (.inr ⟨b, _, own, kept.trans minds⟩)
      | takes _ _ _ none => simp [none] at minds
      | gives k' had _ given =>
        obtain rfl : k' = k := by simpa [had] using minds
        exact .inl (.inl ⟨now, subscription?_put put found, given⟩)
      | issues _ _ _ _ _ _ _ _ before =>
        rcases before with ⟨none, -⟩ | ⟨k', had, -, dropped⟩
        · simp [none] at minds
        · obtain rfl : k' = k := by simpa [had] using minds
          exact .inr ⟨rfl, dropped⟩
      | adds _ _ k' _ before after =>
        subst before
        obtain rfl : k' = k := by simpa [Stage.minds?] using minds
        exact .inl (.inr ⟨b, _, own, by rw [after]; rfl⟩)
      | drops k' had _ _ _ _ dropped =>
        obtain rfl : k' = k := by simpa [had] using minds
        exact .inr ⟨rfl, dropped⟩
    · exact .inl (.inr ⟨b, stage', stage?_after_of_some self there, minds⟩)
end
end

/-! ## Correlation ids stay apart -/

theorem Issued.mono {sys next : System σ κ} {k : Int64} (issued : sys.Issued k)
    (grown : sys.correlations ≤ next.correlations) : next.Issued k := by
  obtain ⟨n, one, used, same⟩ := issued
  exact ⟨n, one, Nat.le_trans used grown, same⟩

private theorem ofNat_inj {n m : Nat} (n64 : n < 2 ^ 64) (m64 : m < 2 ^ 64)
    (same : Int64.ofNat n = Int64.ofNat m) : n = m := by
  have same : n % 2 ^ 64 = m % 2 ^ 64 := by simpa using congrArg (fun i => i.toUInt64.toNat) same
  rwa [Nat.mod_eq_of_lt n64, Nat.mod_eq_of_lt m64] at same

/-- The next correlation id has not been used yet, while there are more of them. -/
theorem nextCorrelation_fresh {sys : System σ κ} (few : sys.correlations + 1 < 2 ^ 64) :
    ¬ sys.Issued sys.nextCorrelation := by
  rintro ⟨n, -, used, same⟩
  have := ofNat_inj few (by omega) same
  omega

section
variable {sys next : System σ κ} {a : ActivityId} {s : SubscriptionId} {sub now : Subscription σ κ}
  {stage : Stage σ κ} {change : Change σ κ}

/-- Every turn uses some correlation ids, or none. -/
theorem Turn.grows (turn : Turn sys a s sub stage change) : sys.correlations ≤ change.correlations := by
  cases turn with
  | removeUnsaid _ _ _ unsaid =>
    rcases unsaid with ⟨-, same⟩ | ⟨m, -, -, same⟩
    · exact Nat.le_of_eq same.symm
    · exact same ▸ Nat.le_succ _
  | _ => simp

theorem Errand.grows (errand : Errand sys a stage change) : sys.correlations ≤ change.correlations := by
  cases errand with
  | unreleased _ _ _ unsaid =>
    rcases unsaid with ⟨-, same⟩ | ⟨m, -, -, same⟩
    · exact Nat.le_of_eq same.symm
    · exact same ▸ Nat.le_succ _
  | _ => simp [waiting]

/-- A route that is about to be made gets a new correlation id. -/
theorem Tracks.coming (tracks : Tracks sys s sub now stage change) {t : SubscriptionId} {p : Purpose}
    {c : ConnectionId} {k : Int64} {m : Message} (adding : change.stage = .addRoute t p c k m) :
    k = sys.nextCorrelation ∧ m.correlation = .ok k ∧ change.correlations = sys.correlations + 1 ∧
      (change.routes = sys.routes ∨ ∃ k', change.routes = sys.routesBut k') := by
  cases tracks with
  | stays _ _ none => exact absurd adding (none t p c k m)
  | takes _ _ _ _ _ none => exact absurd adding (none t p c k m)
  | gives _ _ _ _ none => simp [adding, Stage.minds?] at none
  | issues p' c' m' _ _ after stamped used routes =>
    rw [after] at adding
    cases adding
    refine ⟨rfl, stamped, used, ?_⟩
    rcases routes with ⟨-, same⟩ | ⟨k', -, -, dropped⟩
    · exact .inl same
    · exact .inr ⟨k', dropped⟩
  | adds _ _ _ _ _ after => simp [after] at adding
  | drops _ _ _ _ _ none => simp [adding, Stage.minds?] at none

/-- The routes after a turn: those before it, or those but one, or one more. -/
theorem Tracks.routes (tracks : Tracks sys s sub now stage change) :
    change.routes = sys.routes ∨
      (∃ k, (∀ c, stage.Ends s c k) ∧ change.routes = sys.routesBut k) ∨
      ∃ p c k m, stage = .addRoute s p c k m ∧ change.routes = (k, ⟨s, c⟩) :: sys.routesBut k := by
  cases tracks with
  | stays _ _ _ same => exact .inl same
  | takes _ _ _ _ _ _ same => exact .inl same
  | gives _ _ _ _ _ same => exact .inl same
  | issues _ _ _ _ _ _ _ _ routes =>
    rcases routes with ⟨-, same⟩ | ⟨k, -, ends, dropped⟩
    · exact .inl same
    · exact .inr (.inl ⟨k, ends, dropped⟩)
  | adds p c k m before _ _ _ added => exact .inr (.inr ⟨p, c, k, m, before, added⟩)
  | drops k _ ends _ _ _ dropped => exact .inr (.inl ⟨k, ends, dropped⟩)

theorem mem_routesBut {k : Int64} {entry : Int64 × Route} :
    entry ∈ sys.routesBut k ↔ entry ∈ sys.routes ∧ entry.1 ≠ k := by
  simp [routesBut]

/-- No correlation id comes to have two routes. -/
theorem Tracks.keys (tracks : Tracks sys s sub now stage change) (keys : (sys.routes.map (·.1)).Nodup) :
    (change.routes.map (·.1)).Nodup := by
  have but (k) : ((sys.routesBut k).map (·.1)).Nodup := keys.sublist (List.filter_sublist.map _)
  rcases tracks.routes with same | ⟨k, -, dropped⟩ | ⟨p, c, k, m, -, added⟩
  · exact same ▸ keys
  · exact dropped ▸ but k
  · rw [added, List.map_cons, List.nodup_cons]
    refine ⟨?_, but k⟩
    intro there
    obtain ⟨entry, there, same⟩ := List.mem_map.mp there
    exact (mem_routesBut.mp there).2 same

/-- Whoever minds a correlation id for a subscription does so alone: it has the lock. -/
theorem Sound.minder (sound : sys.Sound) {b : ActivityId} {k k' : Int64} {other : Stage σ κ}
    (here : sys.stage? a = some stage) (minds : stage.minds? = some (s, k))
    (there : sys.stage? b = some other) (minds' : other.minds? = some (s, k')) : a = b ∧ stage = other := by
  obtain ⟨sub, found⟩ := subscription?_of_lt (sound.about a stage s here (subscription?_of_minds minds))
  have kept := sound.kept s sub found
  have has := (kept.unrouted here minds).1
  rw [(kept.unrouted there minds').1] at has
  obtain rfl := Option.some.inj has
  exact ⟨rfl, Option.some.inj (here.symm.trans there)⟩

/-- A subscription minds one correlation id at most. -/
theorem Minds.unique {k k' : Int64} (minds : sys.Minds s k) (minds' : sys.Minds s k') (sound : sys.Sound) :
    k = k' := by
  -- while an activity minds one for it, there is none on record
  have apart {a k k' sub} {stage : Stage σ κ} (here : sys.stage? a = some stage) (minds : stage.minds? = some (s, k))
      (found : sys.subscription? s = some sub) (registered : sub.registration.correlation = some k') : False := by
    have none := ((sound.kept s sub found).unrouted here minds).2
    cases none.symm.trans registered
  rcases minds with ⟨sub, found, registered⟩ | ⟨a, stage, here, minds⟩
  · rcases minds' with ⟨sub', found', registered'⟩ | ⟨b, other, there, minds'⟩
    · obtain rfl := Option.some.inj (found.symm.trans found')
      exact Option.some.inj (registered.symm.trans registered')
    · exact (apart there minds' found registered).elim
  · rcases minds' with ⟨sub, found, registered⟩ | ⟨b, other, there, minds'⟩
    · exact (apart here minds found registered).elim
    · obtain ⟨-, rfl⟩ := sound.minder here minds there minds'
      simpa using minds.symm.trans minds'

/-- No two activities mind the same correlation id: both would have the lock. -/
theorem Apart.alone (apart : sys.Apart) (sound : sys.Sound) {b : ActivityId} {t : SubscriptionId} {k : Int64}
    {other : Stage σ κ} (here : sys.stage? a = some stage) (minds : stage.minds? = some (s, k))
    (there : sys.stage? b = some other) (minds' : other.minds? = some (t, k)) : b = a := by
  obtain rfl : t = s := apart.single t s k (.inr ⟨b, other, there, minds'⟩) (.inr ⟨a, stage, here, minds⟩)
  exact (sound.minder there minds' here minds).1

theorem Minded.turn (minded : sys.Minded) (sound : sys.Sound) (here : sys.stage? a = some stage)
    (about : stage.subscription? = some s) (found : sys.subscription? s = some sub)
    (turn : Turn sys a s sub stage change) : (sys.after a change).Minded := by
  obtain ⟨now, put, tracks⟩ := turn.tracks (sound.kept s sub found) found here
  intro k t c (there : (k, ⟨t, c⟩) ∈ change.routes)
  have old (routed : (k, ⟨t, c⟩) ∈ sys.routes) : (sys.after a change).Minds t k := by
    rcases minds_after put tracks here about found (minded k t c routed) with minds | ⟨-, dropped⟩
    · exact minds
    · rw [dropped, mem_routesBut] at there
      exact absurd rfl there.2
  rcases tracks.routes with same | ⟨k', -, dropped⟩ | ⟨p, c', k', m, adding, added⟩
  · exact old (same ▸ there)
  · rw [dropped, mem_routesBut] at there
    exact old there.1
  · rw [added] at there
    rcases List.mem_cons.mp there with new | there
    · cases new
      have minding : sys.Minds s k := .inr ⟨a, stage, here, by simp [adding, Stage.minds?]⟩
      rcases minds_after put tracks here about found minding with minds | ⟨-, dropped⟩
      · exact minds
      · simp [added, routesBut] at dropped
    · exact old (mem_routesBut.mp there).1

theorem Apart.turn (apart : sys.Apart) (sound : sys.Sound) (here : sys.stage? a = some stage)
    (about : stage.subscription? = some s) (found : sys.subscription? s = some sub)
    (turn : Turn sys a s sub stage change) (few : change.correlations < 2 ^ 64) : (sys.after a change).Apart := by
  have kept := sound.kept s sub found
  obtain ⟨now, put, tracks⟩ := turn.tracks kept found here
  have unused {t} (used : change.correlations = sys.correlations + 1) : ¬ sys.Minds t sys.nextCorrelation :=
    fun minds => nextCorrelation_fresh (used ▸ few) (apart.issued t _ minds)
  have own : (sys.after a change).stage? a = some change.stage := stage?_after_self here
  refine ⟨?_, ?_, ?_, ?_, ?_⟩
  · intro t k minds
    rcases minds_before turn put tracks here found minds with old | ⟨-, rfl, used⟩
    · exact (apart.issued t k old).mono turn.grows
    · exact ⟨sys.correlations + 1, Nat.succ_pos _, Nat.le_of_eq used.symm, rfl⟩
  · intro t u k first second
    rcases minds_before turn put tracks here found first with old | ⟨rfl, rfl, used⟩
    · rcases minds_before turn put tracks here found second with old' | ⟨-, rfl, used⟩
      · exact apart.single t u k old old'
      · exact absurd old (unused used)
    · rcases minds_before turn put tracks here found second with old' | ⟨rfl, -, -⟩
      · exact absurd old' (unused used)
      · rfl
  · exact Minded.turn apart.routed sound here about found turn
  · intro b t p c k m there route (routed : (k, route) ∈ change.routes)
    rcases stage?_after_cases there with ⟨rfl, adding⟩ | ⟨other, old⟩ | ⟨-, -, begun⟩
    · obtain ⟨rfl, -, used, routes⟩ := tracks.coming adding.symm
      have old : (sys.nextCorrelation, route) ∈ sys.routes := by
        rcases routes with same | ⟨k', dropped⟩
        · exact same ▸ routed
        · exact (mem_routesBut.mp (dropped ▸ routed)).1
      exact unused used (apart.routed _ route.subscription route.connection old)
    · rcases tracks.routes with same | ⟨k', -, dropped⟩ | ⟨p', c', k', m', adding, added⟩
      · exact apart.coming b t p c k m old route (same ▸ routed)
      · rw [dropped, mem_routesBut] at routed
        exact apart.coming b t p c k m old route routed.1
      · rw [added] at routed
        rcases List.mem_cons.mp routed with new | routed
        · cases new
          exact other (apart.alone sound here (by rw [adding]; rfl) old rfl)
        · exact apart.coming b t p c k m old route (mem_routesBut.mp routed).1
    · obtain ⟨c', request, same⟩ := turn.started_eq begun
      cases same
  · exact tracks.keys apart.keys

/-- Correlation ids stay apart where nobody gets one and no route is made. -/
private theorem Apart.still (apart : sys.Apart) (minds : ∀ t k, next.Minds t k ↔ sys.Minds t k)
    (adding : ∀ b t p c k m, next.stage? b = some (.addRoute t p c k m) → sys.stage? b = some (.addRoute t p c k m))
    (routes : next.routes.Sublist sys.routes) (grown : sys.correlations ≤ next.correlations) : next.Apart := by
  refine ⟨?_, ?_, ?_, ?_, apart.keys.sublist (routes.map _)⟩
  · intro t k there
    exact (apart.issued t k ((minds t k).mp there)).mono grown
  · intro t u k first second
    exact apart.single t u k ((minds t k).mp first) ((minds u k).mp second)
  · intro k t c there
    exact (minds t k).mpr (apart.routed k t c (routes.subset there))
  · intro b t p c k m there route routed
    exact apart.coming b t p c k m (adding b t p c k m there) route (routes.subset routed)

private theorem minds?_of_idle (idle : stage.engages? = none) : stage.minds? = none := by
  cases stage <;> simp_all [Stage.engages?, Stage.minds?]

/-- An activity that is at no lock, and comes to none, minds nothing. -/
private theorem minding_iff (here : sys.stage? a = some stage) (idle : stage.minds? = none)
    (later : change.stage.minds? = none) (started : ∀ begun ∈ change.started, begun.engages? = none)
    (t : SubscriptionId) (k : Int64) :
    (∃ b stage, (sys.after a change).stage? b = some stage ∧ stage.minds? = some (t, k)) ↔
      ∃ b stage, sys.stage? b = some stage ∧ stage.minds? = some (t, k) := by
  constructor
  · rintro ⟨b, stage', there, minds⟩
    rcases stage?_after_cases there with ⟨-, rfl⟩ | ⟨-, old⟩ | ⟨-, -, begun⟩
    · simp [later] at minds
    · exact ⟨b, stage', old, minds⟩
    · simp [minds?_of_idle (started stage' begun)] at minds
  · rintro ⟨b, stage', there, minds⟩
    have other : b ≠ a := by
      rintro rfl
      rw [here] at there
      obtain rfl := Option.some.inj there
      simp [idle] at minds
    exact ⟨b, stage', stage?_after_of_some other there, minds⟩

/-- An errand brings nobody to the making of a route. -/
theorem Errand.adding (errand : Errand sys a stage change) {b : ActivityId} {t : SubscriptionId} {p : Purpose}
    {c : ConnectionId} {k : Int64} {m : Message}
    (there : (sys.after a change).stage? b = some (.addRoute t p c k m)) :
    sys.stage? b = some (.addRoute t p c k m) := by
  rcases stage?_after_cases there with ⟨-, same⟩ | ⟨-, old⟩ | ⟨-, -, begun⟩
  · rcases errand.quiet with quiet | ⟨listener, token, request, rfl, rfl, -⟩
    · have leaves := quiet.leaves
      simp [← same, Stage.engages?] at leaves
    · cases same
  · exact old
  · rcases errand.quiet with quiet | ⟨listener, token, request, rfl, rfl, -⟩
    · simpa [Stage.engages?] using quiet.started _ begun
    · simp at begun

/-- An errand leaves what is minded as it is. -/
theorem minds_of_errand (here : sys.stage? a = some stage) (errand : Errand sys a stage change)
    (t : SubscriptionId) (k : Int64) : (sys.after a change).Minds t k ↔ sys.Minds t k := by
  rcases errand.quiet with quiet | ⟨listener, token, request, rfl, rfl, -⟩
  · refine or_congr ?_ (minding_iff here (minds?_of_idle errand.engages?) (minds?_of_idle quiet.leaves) quiet.started t k)
    simp [subscription?, quiet.subscriptions]
  · refine or_congr ?_ (minding_iff here rfl rfl (by simp) t k)
    constructor
    · rintro ⟨sub', there, registered⟩
      have there : (sys.subscriptions ++ [created a listener request])[t]? = some sub' := there
      by_cases old : t < sys.subscriptions.length
      · rw [List.getElem?_append_left old] at there
        exact ⟨sub', there, registered⟩
      · rw [List.getElem?_append_right (Nat.le_of_not_lt old)] at there
        obtain rfl : sub' = created a listener request := by simpa using List.mem_of_getElem? there
        simp [created, Registration.none] at registered
    · rintro ⟨sub', there, registered⟩
      refine ⟨sub', ?_, registered⟩
      show (sys.subscriptions ++ [created a listener request])[t]? = some sub'
      rw [List.getElem?_append_left (lt_of_subscription? there)]
      exact there

theorem Errand.routes_sublist (errand : Errand sys a stage change) : change.routes.Sublist sys.routes := by
  rcases errand.quiet with quiet | ⟨listener, token, request, rfl, rfl, -⟩
  · exact quiet.routes
  · exact .refl _

/-- Whatever the surroundings do, what is minded stays as it is. -/
theorem Drifts.minds_iff (drifts : sys.Drifts next) (t : SubscriptionId) (k : Int64) :
    next.Minds t k ↔ sys.Minds t k := by
  have same {stage later : Stage σ κ} (drift : stage.Drift later) : later.minds? = stage.minds? := by
    cases drift <;> rfl
  refine or_congr (by simp [subscription?, drifts.subscriptions]) ⟨?_, ?_⟩
  · rintro ⟨b, later, there, minds⟩
    rcases drifts.new b later there with ⟨stage, before, drift⟩ | ⟨-, beginning, rfl⟩
    · exact ⟨b, stage, before, same drift ▸ minds⟩
    · cases beginning <;> simp [Beginning.stage, Stage.minds?] at minds
  · rintro ⟨b, stage, here, minds⟩
    obtain ⟨later, there, drift⟩ := drifts.old b stage here
    exact ⟨b, later, there, (same drift).trans minds⟩

theorem Minded.step {move : Move σ κ} (minded : sys.Minded) (sound : sys.Sound) (taken : sys.step? move = some next) :
    next.Minded := by
  by_cases turns : ∃ a, move = .proceed a
  · obtain ⟨a, rfl⟩ := turns
    obtain ⟨stage, change, here, rfl, ⟨s, sub, about, found, turn⟩ | ⟨-, errand⟩⟩ := after_of_proceed taken
    · exact minded.turn sound here about found turn
    · intro k t c there
      exact (minds_of_errand here errand t k).mpr (minded k t c (errand.routes_sublist.subset there))
  · have drifts := drifts_of_step taken (by simpa using turns)
    intro k t c there
    exact (drifts.minds_iff t k).mpr (minded k t c (drifts.routes ▸ there))

/-- Every route is minded at any time. -/
theorem minded_of_past {limit : Timespan} {surroundings : σ} {past : List (Step (System σ κ) (Move σ κ))}
    (run : Past step? (System.new limit surroundings) past sys) : sys.Minded := by
  induction run with
  | start => simp [System.new, Minded]
  | step move run taken ih => exact ih.step (sound_of_past run) taken

theorem Apart.errand (apart : sys.Apart) (here : sys.stage? a = some stage)
    (errand : Errand sys a stage change) : (sys.after a change).Apart :=
  apart.still (minds_of_errand here errand) (fun _ _ _ _ _ _ => errand.adding) errand.routes_sublist errand.grows

theorem Apart.drifts (apart : sys.Apart) (drifts : sys.Drifts next) : next.Apart := by
  refine apart.still drifts.minds_iff ?_ (drifts.routes ▸ .refl _) (Nat.le_of_eq drifts.correlations.symm)
  intro b t p c k m there
  rcases drifts.new b _ there with ⟨stage, before, drift⟩ | ⟨-, beginning, same⟩
  · cases drift
    exact before
  · cases beginning <;> cases same

theorem correlations_le_of_step {move : Move σ κ} (taken : sys.step? move = some next) :
    sys.correlations ≤ next.correlations := by
  by_cases turns : ∃ a, move = .proceed a
  · obtain ⟨a, rfl⟩ := turns
    obtain ⟨stage, change, -, rfl, ⟨s, sub, -, -, turn⟩ | ⟨-, errand⟩⟩ := after_of_proceed taken
    · exact turn.grows
    · exact errand.grows
  · exact Nat.le_of_eq (drifts_of_step taken (by simpa using turns)).correlations.symm

theorem Apart.step {move : Move σ κ} (apart : sys.Apart) (sound : sys.Sound)
    (taken : sys.step? move = some next) (few : next.correlations < 2 ^ 64) : next.Apart := by
  by_cases turns : ∃ a, move = .proceed a
  · obtain ⟨a, rfl⟩ := turns
    obtain ⟨stage, change, here, rfl, ⟨s, sub, about, found, turn⟩ | ⟨-, errand⟩⟩ := after_of_proceed taken
    · exact apart.turn sound here about found turn few
    · exact apart.errand here errand
  · exact apart.drifts (drifts_of_step taken (by simpa using turns))

/-- Correlation ids are apart for as long as there are enough of them. -/
theorem apart_of_past {limit : Timespan} {surroundings : σ} {past : List (Step (System σ κ) (Move σ κ))}
    (run : Past step? (System.new limit surroundings) past sys) (few : sys.correlations < 2 ^ 64) : sys.Apart := by
  induction run with
  | start =>
    refine ⟨?_, ?_, ?_, ?_, ?_⟩ <;> simp [System.new, Minds, subscription?, stage?]
  | step move run taken ih =>
    exact (ih (Nat.lt_of_le_of_lt (correlations_le_of_step taken) few)).step (sound_of_past run) taken few
end

end System
end Datagrid
