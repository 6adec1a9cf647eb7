import Datagrid.Proofs.Subscription.Requests

/-!
Routing: which listener is handed which message. A message goes to the listener of a
subscription by the route that was there when it was looked up, and a route is there
from the step that makes it to the first that ends it.
-/
namespace Datagrid

variable {σ κ : Type}

namespace Step

/-- A step that is the turn of an activity at a stage. -/
def Turns (e : Step (System σ κ) (Move σ κ)) (a : ActivityId) (stage : Stage σ κ) : Prop :=
  e.move = .proceed a ∧ e.before.stage? a = some stage

/-- A step that makes a route for a subscription. -/
def Adds (e : Step (System σ κ) (Move σ κ)) (s : SubscriptionId) (c : ConnectionId) (k : Int64) : Prop :=
  ∃ a p m, e.Turns a (.addRoute s p c k m)

/-- A step that ends a route of a subscription. -/
def Ends (e : Step (System σ κ) (Move σ κ)) (s : SubscriptionId) (c : ConnectionId) (k : Int64) : Prop :=
  ∃ a stage, e.Turns a stage ∧ stage.Ends s c k

/-- A step that hands a message to the listener of a subscription, and counts it. -/
def Hands (e : Step (System σ κ) (Move σ κ)) (a : ActivityId) (s : SubscriptionId) (m : Message) : Prop :=
  e.Turns a (.deliver s m) ∧ e.after.counts.dispatched = e.before.counts.dispatched + 1 ∧
    ∃ sub, e.before.subscription? s = some sub ∧
      match sub.listener.calls e.before.surroundings m with
      | .ok calls => e.after.stage? a = some (.call calls)
      | .error _ => e.after.stage? a = some (.done .finished) ∧
          e.after.counts.errors = e.before.counts.errors + 1

end Step

namespace System

/-- Events are routed exactly. -/
structure RoutedExactly (past : List (Step (System σ κ) (Move σ κ))) (sys : System σ κ) : Prop where
  /-- A message is handed to a listener only by an activity that began with it, and
      found the route at its lookup. -/
  only : ∀ earlier e later a s m, past = earlier ++ e :: later → e.Hands a s m →
    ∃ c k, m.correlation = .ok k ∧ (∃ began ∈ earlier, began.Turns a (.event c m)) ∧
      ∃ lookup ∈ earlier, lookup.Turns a (.route c k m) ∧ lookup.before.route? k = some ⟨s, c⟩
  /-- No activity hands over twice. -/
  once : ∀ earlier e later a s m, past = earlier ++ e :: later → e.Hands a s m →
    ∀ e' ∈ earlier, ∀ s' m', ¬ e'.Hands a s' m'
  /-- An activity that has found the route hands the message over in its next turn, if
      the subscription is still in the table then, and not removed. -/
  always : ∀ earlier lookup later a s c k m, past = earlier ++ lookup :: later →
    lookup.Turns a (.route c k m) → lookup.before.route? k = some ⟨s, c⟩ →
    (∀ e ∈ later, e.move ≠ .proceed a) →
    ∃ sub next, sys.subscription? s = some sub ∧ sys.step? (.proceed a) = some next ∧
      (Step.Hands ⟨sys, .proceed a, next⟩ a s m ↔ s ∈ sys.table ∧ sub.state ≠ .removed)
  /-- A route is there from the step that makes it to the first that ends it. -/
  mapped : ∀ s c k, sys.route? k = some ⟨s, c⟩ ↔
    ∃ earlier adding later, past = earlier ++ adding :: later ∧ adding.Adds s c k ∧
      ∀ e ∈ later, ¬ e.Ends s c k
  /-- A route is undone only by an activity whose request was interrupted, or brought no
      registration. -/
  undone : ∀ earlier e later a s p k fault, past = earlier ++ e :: later →
    e.Turns a (.removeRoute s p k fault) →
    ∃ waited ∈ earlier, ∃ c request late sub, waited.Turns a (.awaitRegistration s p c k request late) ∧
      waited.before.subscription? s = some sub ∧
      (waited.before.Interrupted p.token request late fault ∨
        ∃ reply, waited.before.Answered p.token request reply ∧
          reply.bind sub.listener.registration = .error fault)
  /-- It is that of the latest registration of its subscription. -/
  latest : ∀ earlier adding later s c k, past = earlier ++ adding :: later → adding.Adds s c k →
    sys.route? k = some ⟨s, c⟩ → ∀ e ∈ later, ∀ c' k', ¬ e.Adds s c' k'
  /-- No correlation id is used for two routes. -/
  single : ∀ earlier adding later s c k, past = earlier ++ adding :: later → adding.Adds s c k →
    ∀ e ∈ earlier, ∀ s' c', ¬ e.Adds s' c' k
  /-- A route is made before the request goes out. -/
  first : ∀ e ∈ past, ∀ a s p c k m, e.Turns a (.addRoute s p c k m) →
    m.correlation = .ok k ∧ (∀ request ∈ e.before.requests, request.message.correlation ≠ .ok k) ∧
      e.after.route? k = some ⟨s, c⟩ ∧ e.after.requests = e.before.requests ++ [⟨c, m, .spawned⟩]

/-! ## One step -/

section
variable {sys next : System σ κ} {a : ActivityId} {s : SubscriptionId} {c : ConnectionId} {k : Int64}
  {stage : Stage σ κ} {change : Change σ κ} {sub : Subscription σ κ} {move : Move σ κ}

theorem route?_eq_some (apart : sys.Apart) {route : Route} :
    sys.route? k = some route ↔ (k, route) ∈ sys.routes := by
  refine ⟨mem_routes_of_route?, ?_⟩
  intro there
  obtain ⟨before, after, split⟩ := List.append_of_mem there
  refine List.lookup_eq_some_iff.mpr ⟨before, after, split, ?_⟩
  intro entry earlier
  have keys := apart.keys
  rw [split] at keys
  simp only [List.map_append, List.map_cons, List.nodup_append, List.mem_map, List.mem_cons] at keys
  have other := keys.2.2 entry.1 ⟨entry, earlier, rfl⟩ k (.inl rfl)
  simpa using Ne.symm other

/-- Where a route is about to be made, the subscription has none. -/
theorem Apart.bare (apart : sys.Apart) (sound : sys.Sound) {p : Purpose} {m : Message}
    (here : sys.stage? a = some (.addRoute s p c k m)) (k' : Int64) (c' : ConnectionId) :
    (k', ⟨s, c'⟩) ∉ sys.routes := by
  intro routed
  obtain rfl : k = k' := Minds.unique (.inr ⟨a, _, here, rfl⟩) (apart.routed k' s c' routed) sound
  exact apart.coming a s p c k m here ⟨s, c'⟩ routed

/-- The step that makes a route sends the request, too. -/
theorem step_addRoute {p : Purpose} {m : Message} (here : sys.stage? a = some (.addRoute s p c k m))
    (taken : sys.step? (.proceed a) = some next) :
    next.routes = (k, ⟨s, c⟩) :: sys.routesBut k ∧ next.requests = sys.requests ++ [⟨c, m, .spawned⟩] ∧
      next.stage? a = some (.awaitRegistration s p c k sys.requests.length false) := by
  simp only [step?, proceed, here, Stage.subscription?] at taken
  cases found : sys.subscription? s with
  | none => simp [found] at taken
  | some sub =>
    simp only [found, proceedOn, Option.some.injEq] at taken
    subst taken
    refine ⟨rfl, rfl, ?_⟩
    simp [stage?, become, System.request, insertRoute, lt_of_stage? here]

/-- A message that is to be delivered is handed over if its subscription still counts,
    and the activity makes the calls then, or is done. -/
theorem step_deliver {m : Message} (here : sys.stage? a = some (.deliver s m))
    (found : sys.subscription? s = some sub) :
    ∃ next, sys.step? (.proceed a) = some next ∧
      (Step.Hands ⟨sys, .proceed a, next⟩ a s m ↔ s ∈ sys.table ∧ sub.state ≠ .removed) ∧
      ((∃ calls, next.stage? a = some (.call calls)) ∨ next.stage? a = some (.done .finished)) := by
  have step : sys.step? (.proceed a) = sys.proceedOn a s sub (.deliver s m) := by
    simp only [step?, proceed, here, Stage.subscription?, found]
  have bound := lt_of_stage? here
  have own (sys' : System σ κ) (same : sys'.activities = sys.activities) (stage : Stage σ κ) :
      (sys'.become a stage).stage? a = some stage := by
    simp [stage?, become, same, bound]
  by_cases gone : s ∉ sys.table ∨ sub.state = .removed
  · refine ⟨sys.finish a .finished, by rw [step]; exact if_pos gone, ?_, .inr (own sys rfl _)⟩
    constructor
    · rintro ⟨-, counted, -⟩
      simp [finish, become] at counted
    · rintro ⟨listed, live⟩
      exact absurd gone (not_or.mpr ⟨not_not.mpr listed, live⟩)
  · obtain ⟨listed, live⟩ := not_or.mp gone
    have counts : s ∈ sys.table ∧ sub.state ≠ .removed := ⟨not_not.mp listed, live⟩
    cases called : sub.listener.calls sys.surroundings m with
    | ok calls =>
      refine ⟨(sys.count .dispatch).become a (.call calls), ?_, ?_, .inl ⟨calls, own _ rfl _⟩⟩
      · rw [step]
        simp [proceedOn, counts, count, called]
      · refine iff_of_true ⟨⟨rfl, here⟩, rfl, sub, found, ?_⟩ counts
        simp only [called]
        exact own _ rfl _
    | error fault =>
      refine ⟨((sys.count .dispatch).count .error).finish a .finished, ?_, ?_, .inr (own _ rfl _)⟩
      · rw [step]
        simp [proceedOn, counts, count, called]
      · refine iff_of_true ⟨⟨rfl, here⟩, rfl, sub, found, ?_⟩ counts
        simp only [called]
        exact ⟨own _ rfl _, rfl⟩

theorem routes_of_ends (turn : Turn sys a s sub stage change) (ends : stage.Ends s c k) :
    change.routes = sys.routesBut k := by
  cases turn with
  | undoFirst =>
    cases ends
    rfl
  | undoAgain =>
    cases ends
    rfl
  | learn acquires => cases acquires <;> cases ends
  | tooLate acquires => cases acquires <;> cases ends
  | beginRemoval acquires => cases acquires <;> cases ends
  | skip acquires => cases acquires <;> cases ends
  | dropAgain acquires => cases acquires <;> cases ends
  | installAgain ready =>
    cases ready with
    | unrouted acquires => cases acquires <;> cases ends
    | dropped =>
      cases ends
      rfl
  | failAgain ready =>
    cases ready with
    | unrouted acquires => cases acquires <;> cases ends
    | dropped =>
      cases ends
      rfl
  | removeUnregistered leaves =>
    cases leaves <;> cases ends
    rfl
  | removeUnsaid leaves =>
    cases leaves <;> cases ends
    rfl
  | remove leaves =>
    cases leaves <;> cases ends
    rfl
  | _ => cases ends

private theorem subscription_of_ends {t : SubscriptionId} (ends : stage.Ends t c k)
    (about : stage.subscription? = some s) : t = s ∧ stage.minds? = some (s, k) := by
  cases ends <;> simp_all [Stage.subscription?, Stage.minds?]

private theorem mem_routes_turn (apart : sys.Apart) (sound : sys.Sound) (here : sys.stage? a = some stage)
    (about : stage.subscription? = some s) (found : sys.subscription? s = some sub)
    (turn : Turn sys a s sub stage change) {t : SubscriptionId} (adds : ∀ p c k m, stage ≠ .addRoute s p c k m) :
    (k, ⟨t, c⟩) ∈ change.routes ↔ (k, ⟨t, c⟩) ∈ sys.routes ∧ ¬ stage.Ends t c k := by
  obtain ⟨now, put, tracks⟩ := turn.tracks (sound.kept s sub found) found here
  have lasts (there : (k, ⟨t, c⟩) ∈ change.routes) : ¬ stage.Ends t c k := by
    intro ends
    obtain ⟨rfl, -⟩ := subscription_of_ends ends about
    rw [routes_of_ends turn ends, mem_routesBut] at there
    exact there.2 rfl
  rcases tracks.routes with same | ⟨k', ends, dropped⟩ | ⟨p, c', k', m, adding, -⟩
  · rw [← same]
    exact ⟨fun there => ⟨there, lasts there⟩, fun there => there.1⟩
  · constructor
    · intro there
      exact ⟨(mem_routesBut.mp (dropped ▸ there)).1, lasts there⟩
    · rintro ⟨there, stays⟩
      rw [dropped, mem_routesBut]
      refine ⟨there, ?_⟩
      rintro rfl
      obtain ⟨-, minds⟩ := subscription_of_ends (ends c) about
      obtain rfl := apart.single t s k (apart.routed k t c there) (.inr ⟨a, stage, here, minds⟩)
      exact stays (ends c)
  · exact absurd adding (adds p c' k' m)

private theorem mem_routes_errand (errand : Errand sys a stage change) :
    (k, ⟨s, c⟩) ∈ change.routes ↔ (k, ⟨s, c⟩) ∈ sys.routes ∧ ¬ stage.Ends s c k := by
  cases errand with
  | disconnected c' =>
    rw [List.mem_filter]
    refine and_congr_right fun _ => ?_
    constructor
    · intro other ends
      cases ends
      simp at other
    · intro stays
      have other : c ≠ c' := by
        rintro rfl
        exact stays .disconnected
      simpa using other
  | _ => exact ⟨fun there => ⟨there, by rintro ⟨⟩⟩, fun there => there.1⟩

/-- A route is there after a step that makes it, or one before which it was there and
    that does not end it. -/
theorem mem_routes_of_step (apart : sys.Apart) (sound : sys.Sound) (taken : sys.step? move = some next) :
    (k, ⟨s, c⟩) ∈ next.routes ↔
      Step.Adds ⟨sys, move, next⟩ s c k ∨
        ((k, ⟨s, c⟩) ∈ sys.routes ∧ ¬ Step.Ends ⟨sys, move, next⟩ s c k) := by
  by_cases turns : ∃ a, move = .proceed a
  · obtain ⟨a, rfl⟩ := turns
    obtain ⟨stage, change, here, same, kind⟩ := after_of_proceed taken
    have ends : Step.Ends ⟨sys, .proceed a, next⟩ s c k ↔ stage.Ends s c k := by
      constructor
      · rintro ⟨b, stage', ⟨move, there⟩, ends⟩
        cases move
        obtain rfl := Option.some.inj (there.symm.trans here)
        exact ends
      · intro ends
        exact ⟨a, stage, ⟨rfl, here⟩, ends⟩
    have unadded (plain : ∀ p m, stage ≠ .addRoute s p c k m) : ¬ Step.Adds ⟨sys, .proceed a, next⟩ s c k := by
      rintro ⟨b, p, m, ⟨move, there⟩⟩
      cases move
      exact plain p m (Option.some.inj (here.symm.trans there))
    rw [ends]
    rcases kind with ⟨t, sub, about, found, turn⟩ | ⟨alone, errand⟩
    · by_cases adding : ∃ p c' k' m, stage = .addRoute t p c' k' m
      · obtain ⟨p, c', k', m, rfl⟩ := adding
        obtain ⟨added, -, -⟩ := step_addRoute here taken
        rw [added]
        constructor
        · intro there
          rcases List.mem_cons.mp there with new | old
          · cases new
            exact .inl ⟨a, p, m, rfl, here⟩
          · exact .inr ⟨(mem_routesBut.mp old).1, by rintro ⟨⟩⟩
        · rintro (⟨b, p', m', ⟨move, there⟩⟩ | ⟨there, -⟩)
          · cases move
            cases here.symm.trans there
            exact List.mem_cons_self
          · refine List.mem_cons_of_mem _ (mem_routesBut.mpr ⟨there, ?_⟩)
            rintro rfl
            exact apart.coming a t p c' k m here _ there
      · have plain (p c k m) : stage ≠ .addRoute t p c k m := fun same => adding ⟨p, c, k, m, same⟩
        have other (p m) : stage ≠ .addRoute s p c k m := by
          rintro rfl
          obtain rfl : s = t := Option.some.inj about
          exact plain p c k m rfl
        rw [or_iff_right (unadded other), same]
        exact mem_routes_turn apart sound here about found turn plain
    · have other (p m) : stage ≠ .addRoute s p c k m := by
        rintro rfl
        cases alone
      rw [or_iff_right (unadded other), same]
      exact mem_routes_errand errand
  · have drifts := drifts_of_step taken fun a same => turns ⟨a, same⟩
    have never {stage : Stage σ κ} {a : ActivityId} : ¬ Step.Turns ⟨sys, move, next⟩ a stage :=
      fun turn => turns ⟨a, turn.1⟩
    rw [drifts.routes]
    constructor
    · intro there
      refine .inr ⟨there, ?_⟩
      rintro ⟨a, stage, turn, -⟩
      exact never turn
    · rintro (⟨a, p, m, turn⟩ | ⟨there, -⟩)
      · exact (never turn).elim
      · exact there
end

/-! ## A whole run -/

section
variable {limit : Timespan} {surroundings : σ} {past : List (Step (System σ κ) (Move σ κ))} {sys : System σ κ}

/-- A route is there from the step that makes it to the first that ends it. -/
theorem mem_routes_of_past (run : Past step? (System.new limit surroundings) past sys)
    (few : sys.correlations < 2 ^ 64) (s : SubscriptionId) (c : ConnectionId) (k : Int64) :
    (k, ⟨s, c⟩) ∈ sys.routes ↔ ∃ earlier adding later, past = earlier ++ adding :: later ∧
      adding.Adds s c k ∧ ∀ e ∈ later, ¬ e.Ends s c k := by
  induction run with
  | start => simp [System.new]
  | @step past now next move run taken ih =>
    have few' := Nat.lt_of_le_of_lt (correlations_le_of_step taken) few
    rw [mem_routes_of_step (apart_of_past run few') (sound_of_past run) taken, ih few']
    constructor
    · rintro (adds | ⟨⟨earlier, adding, later, rfl, adds, lasts⟩, stays⟩)
      · exact ⟨past, _, [], rfl, adds, by simp⟩
      · refine ⟨earlier, adding, later ++ [⟨now, move, next⟩], by simp, adds, ?_⟩
        intro e there
        rcases List.mem_append.mp there with old | new
        · exact lasts e old
        · obtain rfl := List.mem_singleton.mp new
          exact stays
    · rintro ⟨earlier, adding, later, split, adds, lasts⟩
      rcases split_concat split with ⟨rfl, rfl, rfl⟩ | ⟨rest, rfl, rfl⟩
      · exact .inl adds
      · refine .inr ⟨⟨earlier, adding, rest, rfl, adds, ?_⟩, ?_⟩
        · intro e there
          exact lasts e (List.mem_append_left _ there)
        · exact lasts _ (by simp)

/-- A correlation id that was used before a step is not given out in it. -/
theorem not_adding_of_step {next : System σ κ} {move : Move σ κ} {k : Int64} (sound : sys.Sound)
    (taken : sys.step? move = some next) (few : next.correlations < 2 ^ 64) (issued : sys.Issued k)
    {a : ActivityId} {t : SubscriptionId} {p : Purpose} {d : ConnectionId} {m : Message}
    (there : next.stage? a = some (.addRoute t p d k m)) :
    move ≠ .proceed a ∧ sys.stage? a = some (.addRoute t p d k m) := by
  rcases stage?_of_step taken there with ⟨stage, change, rfl, here, rfl, later, kind⟩ | ⟨other, stage, here, drift⟩ |
    ⟨-, begins⟩
  · exfalso
    rcases kind with ⟨s, sub, -, found, turn⟩ | ⟨-, errand⟩
    · obtain ⟨now, -, tracks⟩ := turn.tracks (sound.kept s sub found) found here
      obtain ⟨rfl, -, used, -⟩ := tracks.coming later.symm
      exact nextCorrelation_fresh (used ▸ few) issued
    · have before := errand.adding there
      rw [here] at before
      obtain rfl := Option.some.inj before
      simpa [Stage.engages?] using errand.engages?
  · cases drift
    exact ⟨other, here⟩
  · generalize same : Stage.addRoute t p d k m = stage at begins
    cases begins with
    | asked beginning => cases beginning <;> cases same
    | _ => cases same

/-- A correlation id whose route has been made is not about to get one again. -/
private theorem not_adding_of_past (run : Past step? (System.new limit surroundings) past sys)
    (few : sys.correlations < 2 ^ 64) {e : Step (System σ κ) (Move σ κ)} (there : e ∈ past) {s : SubscriptionId}
    {c : ConnectionId} {k : Int64} (adds : e.Adds s c k) :
    sys.Issued k ∧ ∀ a t p d m, sys.stage? a ≠ some (.addRoute t p d k m) := by
  induction run with
  | start => simp at there
  | @step past now next move run taken ih =>
    have grown := correlations_le_of_step taken
    have few' := Nat.lt_of_le_of_lt grown few
    rcases List.mem_append.mp there with old | new
    · obtain ⟨issued, none⟩ := ih few' old
      refine ⟨issued.mono grown, ?_⟩
      intro a t p d m adding
      exact none a t p d m (not_adding_of_step (sound_of_past run) taken few issued adding).2
    · obtain rfl := List.mem_singleton.mp new
      obtain ⟨a, p, m, rfl, here⟩ := adds
      have here : now.stage? a = some (.addRoute s p c k m) := here
      have apart := apart_of_past run few'
      have issued := apart.issued s k (.inr ⟨a, _, here, rfl⟩)
      refine ⟨issued.mono grown, ?_⟩
      intro b t p' d m' adding
      obtain ⟨other, before⟩ := not_adding_of_step (sound_of_past run) taken few issued adding
      obtain rfl := apart.alone (sound_of_past run) here rfl before rfl
      exact other rfl

/-- A route that is there is that of the latest registration of its subscription. -/
private theorem latest_of_past (run : Past step? (System.new limit surroundings) past sys)
    (few : sys.correlations < 2 ^ 64) {earlier later : List (Step (System σ κ) (Move σ κ))}
    {adding : Step (System σ κ) (Move σ κ)} {s : SubscriptionId} {c : ConnectionId} {k : Int64}
    (split : past = earlier ++ adding :: later) (adds : adding.Adds s c k) (there : (k, ⟨s, c⟩) ∈ sys.routes) :
    ∀ e ∈ later, ∀ c' k', ¬ e.Adds s c' k' := by
  induction run generalizing later with
  | start => simp at split
  | @step past now next move run taken ih =>
    have few' := Nat.lt_of_le_of_lt (correlations_le_of_step taken) few
    rcases split_concat split with ⟨rfl, rfl, rfl⟩ | ⟨rest, rfl, before⟩
    · simp
    · have old : adding ∈ past := by simp [before]
      have apart := apart_of_past run few'
      have sound := sound_of_past run
      rcases (mem_routes_of_step apart sound taken).mp there with ⟨a, p, m, rfl, here⟩ | ⟨there, -⟩
      · exact absurd here ((not_adding_of_past run few' old adds).2 a s p c m)
      · intro e member c' k' again
        rcases List.mem_append.mp member with earlier | last
        · exact ih few' before there e earlier c' k' again
        · obtain rfl := List.mem_singleton.mp last
          obtain ⟨a, p, m, -, here⟩ := again
          exact apart.bare sound here k c there

/-- An activity at the lookup of a route began with the event, and one that is to
    deliver a message has found the route. -/
private theorem origin_of_past (run : Past step? (System.new limit surroundings) past sys) (a : ActivityId) :
    (∀ c k m, sys.stage? a = some (.route c k m) →
      m.correlation = .ok k ∧ ∃ began ∈ past, began.Turns a (.event c m)) ∧
    ∀ s m, sys.stage? a = some (.deliver s m) → ∃ c k, m.correlation = .ok k ∧
      (∃ began ∈ past, began.Turns a (.event c m)) ∧
        ∃ lookup ∈ past, lookup.Turns a (.route c k m) ∧ lookup.before.route? k = some ⟨s, c⟩ := by
  induction run with
  | start => simp [System.new, stage?]
  | @step past now next move run taken ih =>
    obtain ⟨route, deliver⟩ := ih
    have keep {P : Step (System σ κ) (Move σ κ) → Prop} (h : ∃ e ∈ past, P e) :
        ∃ e ∈ past ++ [⟨now, move, next⟩], P e := by
      obtain ⟨e, there, holds⟩ := h
      exact ⟨e, List.mem_append_left _ there, holds⟩
    refine ⟨?_, ?_⟩
    · intro c k m there
      rcases stage?_of_step taken there with ⟨stage, change, rfl, here, rfl, later, kind⟩ |
        ⟨-, stage, here, drift⟩ | ⟨-, begins⟩
      · rcases kind with ⟨s, sub, -, -, turn⟩ | ⟨-, errand⟩
        · cases turn <;> cases later
        · cases errand with
          | event _ read =>
            cases later
            exact ⟨read, _, List.mem_concat_self, rfl, here⟩
          | _ => cases later
      · cases drift
        exact ⟨(route c k m here).1, keep (route c k m here).2⟩
      · generalize same : Stage.route c k m = stage at begins
        cases begins with
        | asked beginning => cases beginning <;> cases same
        | _ => cases same
    · intro s m there
      rcases stage?_of_step taken there with ⟨stage, change, rfl, here, rfl, later, kind⟩ |
        ⟨-, stage, here, drift⟩ | ⟨-, begins⟩
      · rcases kind with ⟨s', sub, -, -, turn⟩ | ⟨-, errand⟩
        · cases turn <;> cases later
        · cases errand with
          | @routed c k _ _ found =>
            cases later
            obtain ⟨read, began⟩ := route c k m here
            exact ⟨c, k, read, keep began, _, List.mem_concat_self, ⟨rfl, here⟩, found⟩
          | _ => cases later
      · cases drift
        obtain ⟨c, k, read, began, lookup⟩ := deliver s m here
        exact ⟨c, k, read, keep began, keep lookup⟩
      · generalize same : Stage.deliver s m = stage at begins
        cases begins with
        | asked beginning => cases beginning <;> cases same
        | _ => cases same

/-- An activity that undoes a route has waited for a registration in vain. -/
theorem undoing_of_past (run : Past step? (System.new limit surroundings) past sys) {a : ActivityId}
    {s : SubscriptionId} {p : Purpose} {k : Int64} {fault : Fault}
    (here : sys.stage? a = some (.removeRoute s p k fault)) :
    ∃ waited ∈ past, ∃ c request late sub, waited.Turns a (.awaitRegistration s p c k request late) ∧
      waited.before.subscription? s = some sub ∧
      (waited.before.Interrupted p.token request late fault ∨
        ∃ reply, waited.before.Answered p.token request reply ∧
          reply.bind sub.listener.registration = .error fault) := by
  induction run with
  | start => simp [System.new, stage?] at here
  | @step past now next move run taken ih =>
    rcases stage?_of_step taken here with ⟨stage, change, rfl, before, rfl, later, kind⟩ |
      ⟨-, stage, before, drift⟩ | ⟨-, begins⟩
    · rcases kind with ⟨t, sub, -, found, turn⟩ | ⟨-, errand⟩
      · cases turn with
        | abandon c k interrupted =>
          cases later
          exact ⟨_, List.mem_concat_self, c, _, _, sub, ⟨rfl, before⟩, found, .inl interrupted⟩
        | refuse c k late answered refused =>
          cases later
          exact ⟨_, List.mem_concat_self, c, _, _, sub, ⟨rfl, before⟩, found, .inr ⟨_, answered, refused⟩⟩
        | _ => cases later
      · cases errand <;> cases later
    · cases drift
      obtain ⟨waited, there, rest⟩ := ih before
      exact ⟨waited, List.mem_append_left _ there, rest⟩
    · generalize same : Stage.removeRoute s p k fault = stage at begins
      cases begins with
      | asked beginning => cases beginning <;> cases same
      | _ => cases same

/-- Whoever has handed a message over is making calls, or done. -/
private theorem spent_of_past (run : Past step? (System.new limit surroundings) past sys) {a : ActivityId}
    {e : Step (System σ κ) (Move σ κ)} {s : SubscriptionId} {m : Message} (there : e ∈ past)
    (turned : e.Turns a (.deliver s m)) :
    (∃ calls, sys.stage? a = some (.call calls)) ∨ ∃ outcome, sys.stage? a = some (.done outcome) := by
  induction run with
  | start => simp at there
  | @step past now next move run taken ih =>
    rcases List.mem_append.mp there with old | new
    · by_cases own : move = .proceed a
      · subst own
        obtain ⟨stage, change, here, rfl, kind⟩ := after_of_proceed taken
        rcases ih old with ⟨calls, before⟩ | ⟨outcome, before⟩
        · obtain rfl := Option.some.inj (here.symm.trans before)
          rcases kind with ⟨t, sub, about, -, -⟩ | ⟨-, errand⟩
          · cases about
          · cases errand
            exact .inr ⟨_, stage?_after_self here⟩
        · obtain rfl := Option.some.inj (here.symm.trans before)
          rcases kind with ⟨t, sub, about, -, -⟩ | ⟨-, errand⟩
          · cases about
          · cases errand
      · rcases ih old with ⟨calls, before⟩ | ⟨outcome, before⟩
        · obtain ⟨later, there, drift⟩ := drift_of_step taken own before
          cases drift with
          | same => exact .inl ⟨_, there⟩
          | called => exact .inl ⟨_, there⟩
        · obtain ⟨later, there, drift⟩ := drift_of_step taken own before
          cases drift
          exact .inr ⟨_, there⟩
    · obtain rfl := List.mem_singleton.mp new
      obtain ⟨rfl, here⟩ := turned
      have here : now.stage? a = some (.deliver s m) := here
      obtain ⟨sub, found⟩ := subscription?_of_lt ((sound_of_past run).about a _ s here rfl)
      obtain ⟨next', taken', -, later⟩ := step_deliver here found
      obtain rfl := Option.some.inj (taken.symm.trans taken')
      rcases later with calls | done
      · exact .inl calls
      · exact .inr ⟨_, done⟩

/-- An activity that has found a route is to deliver its message, for as long as it has
    no turn. -/
theorem delivers_of_past (run : Past step? (System.new limit surroundings) past sys)
    {earlier later : List (Step (System σ κ) (Move σ κ))} {lookup : Step (System σ κ) (Move σ κ)}
    {a : ActivityId} {s : SubscriptionId} {c : ConnectionId} {k : Int64} {m : Message}
    (split : past = earlier ++ lookup :: later) (turned : lookup.Turns a (.route c k m))
    (found : lookup.before.route? k = some ⟨s, c⟩) (idle : ∀ e ∈ later, e.move ≠ .proceed a) :
    sys.stage? a = some (.deliver s m) := by
  induction run generalizing later with
  | start => simp at split
  | @step past now next move run taken ih =>
    rcases split_concat split with ⟨rfl, rfl, rfl⟩ | ⟨rest, rfl, before⟩
    · obtain ⟨rfl, here⟩ := turned
      have here : now.stage? a = some (.route c k m) := here
      have found : now.route? k = some ⟨s, c⟩ := found
      simp only [step?, proceed, here, Stage.subscription?, proceedAlone, found, if_true, Option.some.injEq]
        at taken
      subst taken
      simp [stage?, become, lt_of_stage? here]
    · have there := ih before fun e member => idle e (List.mem_append_left _ member)
      obtain ⟨stage, there, drift⟩ := drift_of_step taken (idle _ List.mem_concat_self) there
      cases drift
      exact there

private theorem correlations_le_of_past (run : Past step? (System.new limit surroundings) past sys)
    {e : Step (System σ κ) (Move σ κ)} (member : e ∈ past) :
    e.before.correlations ≤ sys.correlations := by
  induction run with
  | start => simp at member
  | step move run taken ih =>
    have grown := correlations_le_of_step taken
    rcases List.mem_append.mp member with old | new
    · exact Nat.le_trans (ih old) grown
    · obtain rfl := List.mem_singleton.mp new
      exact grown

/-- Events are routed exactly, for as long as there are enough correlation ids. -/
theorem routed_exactly (run : Past step? (System.new limit surroundings) past sys)
    (few : sys.correlations < 2 ^ 64) : RoutedExactly past sys := by
  have apart := apart_of_past run few
  have sound := sound_of_past run
  refine ⟨?_, ?_, ?_, ?_, ?_, ?_, ?_, ?_⟩
  · rintro earlier e later a s m split ⟨turned, -⟩
    exact (origin_of_past (run.upto split).1 a).2 s m turned.2
  · rintro earlier e later a s m split ⟨turned, -⟩ e' member s' m' ⟨turned', -⟩
    have here := turned.2
    rcases spent_of_past (run.upto split).1 member turned' with ⟨calls, there⟩ | ⟨outcome, there⟩
    · simp [here] at there
    · simp [here] at there
  · intro earlier lookup later a s c k m split turned found idle
    have here := delivers_of_past run split turned found idle
    obtain ⟨sub, there⟩ := subscription?_of_lt (sound.about a _ s here rfl)
    obtain ⟨next, taken, hands, -⟩ := step_deliver here there
    exact ⟨sub, next, there, taken, hands⟩
  · intro s c k
    rw [route?_eq_some apart]
    exact mem_routes_of_past run few s c k
  · intro earlier e later a s p k fault split turned
    exact undoing_of_past (run.upto split).1 turned.2
  · intro earlier adding later s c k split adds found
    exact latest_of_past run few split adds ((route?_eq_some apart).mp found)
  · rintro earlier adding later s c k split ⟨a, p, m, turned⟩ e member s' c' again
    have there : adding ∈ past := by simp [split]
    have few' := Nat.lt_of_le_of_lt (correlations_le_of_past run there) few
    exact (not_adding_of_past (run.upto split).1 few' member again).2 a s p c m turned.2
  · intro e member a s p c k m turned
    obtain ⟨earlier, upto, taken⟩ := run.mem member
    have few' := Nat.lt_of_le_of_lt (correlations_le_of_past run member) few
    obtain ⟨proceeds, here⟩ := turned
    rw [proceeds] at taken
    obtain ⟨stamped, unsent⟩ := (asked_of_past upto few').coming a s p c k m here
    obtain ⟨added, sent, -⟩ := step_addRoute here taken
    refine ⟨stamped, unsent, ?_, sent⟩
    rw [route?, added, List.lookup_cons_self]

end

/-- A listener that calls once for every event. -/
def tally : Listener Unit Unit where
  request := .ok { Message.request "Tally" false with frames := [.zeroed 16 .unfragmented] }
  registration _ := .ok ⟨0, 1⟩
  removal _ := .ok { Message.request "Untally" true with frames := [.zeroed 16 .unfragmented] }
  removed _ := .ok true
  calls _ _ := .ok [()]

/-- An event for the first correlation id. -/
def tallied : Message := .received [⟨.unfragmented, [0, 0, 0, 0, 1, 0, 0, 0, 0, 0, 0, 0, 0, 0, 0, 0]⟩]

/-- An event that comes before the response to the registration. -/
def earlyEvent : List (Move Unit Unit) :=
  [.use (some 0), .begin (.subscribe tally none), .proceed 0, .proceed 0, .proceed 0, .proceed 0,
    .begin (.event 0 tallied), .proceed 1, .proceed 1, .proceed 1]

theorem early_event_is_handed_over : ∃ (past : _) (sys : System Unit Unit),
    Past step? (System.new (.ofSeconds 60) ()) past sys ∧ sys.correlations < 2 ^ 64 ∧
      sys.counts.dispatched = 1 ∧ sys.reply? 0 = none ∧ RoutedExactly past sys := by
  have done : (earlyEvent.foldlM step? (System.new (.ofSeconds 60) ())).any fun sys =>
      sys.correlations == 1 && sys.counts.dispatched == 1 && (sys.reply? 0).isNone := by
    decide +kernel
  rw [Option.any_eq_true] at done
  obtain ⟨sys, done, facts⟩ := done
  simp only [Bool.and_eq_true, beq_iff_eq, Option.isNone_iff_eq_none] at facts
  obtain ⟨⟨used, counted⟩, unanswered⟩ := facts
  obtain ⟨past, run, -⟩ := Past.of_moves done
  have few : sys.correlations < 2 ^ 64 := by omega
  exact ⟨past, sys, run, few, counted, unanswered, routed_exactly run few⟩

end System
end Datagrid
