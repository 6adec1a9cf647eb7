import Datagrid.Proofs.Subscription.Reconnection
import Datagrid.Proofs.Subscription.Routing
import Mathlib.Data.List.Nodup
import Mathlib.Data.List.Perm.Subperm

/-!
Routes on record: a subscription has one route at most. While nobody has its lock, that is the
one its registration names, on the connection that the registration is on; while somebody has,
it may be one that is being made or dropped. All this is so even where correlation ids run out
and come round again.
-/
namespace Datagrid
namespace System

variable {σ κ : Type}

/-- The routes are on the connections of the registrations that they belong to: of those on
    record, and of those that are waited for. -/
structure Agreed (sys : System σ κ) : Prop where
  recorded : ∀ k s c sub c' id, (k, ⟨s, c⟩) ∈ sys.routes → sys.subscription? s = some sub →
    sub.registration = ⟨some c', some id, some k⟩ → c = c'
  awaited : ∀ k s c a p c' r late, (k, ⟨s, c⟩) ∈ sys.routes →
    sys.stage? a = some (.awaitRegistration s p c' k r late) → c = c'

section
variable {sys next : System σ κ} {a b : ActivityId} {s : SubscriptionId} {sub : Subscription σ κ}
  {stage other : Stage σ κ} {c c' : ConnectionId} {k k' : Int64} {move : Move σ κ}

/-! ## One step -/

/-- Whoever waits for a registration has waited for it before, or has just made its route. -/
theorem awaiting_of_step {p : Purpose} {r : RequestId} {late : Bool} (taken : sys.step? move = some next)
    (there : next.stage? b = some (.awaitRegistration s p c k r late)) :
    (∃ late, sys.stage? b = some (.awaitRegistration s p c k r late)) ∨
      ∃ m, move = .proceed b ∧ sys.stage? b = some (.addRoute s p c k m) := by
  rcases stage?_of_step taken there with ⟨stage, change, rfl, here, -, later, kind⟩ | ⟨-, stage, here, drift⟩ |
    ⟨-, begins⟩
  · rcases kind with ⟨t, sub, -, -, turn⟩ | ⟨-, errand⟩
    · cases turn with
      | addRoute p' c' k' m =>
        cases later
        exact .inr ⟨m, rfl, here⟩
      | _ => cases later
    · cases errand <;> cases later
  · cases drift with
    | same => exact .inl ⟨late, here⟩
    | lateRegistration _ _ _ _ _ late' => exact .inl ⟨late', here⟩
  · cases begins.engages?

/-- A route was there before a step, or the step makes it. -/
theorem routed_of_step (sound : sys.Sound) (taken : sys.step? move = some next)
    (there : (k, ⟨s, c⟩) ∈ next.routes) :
    (k, ⟨s, c⟩) ∈ sys.routes ∨ ∃ a p m, move = .proceed a ∧ sys.stage? a = some (.addRoute s p c k m) := by
  by_cases turns : ∃ a, move = .proceed a
  · obtain ⟨a, rfl⟩ := turns
    obtain ⟨stage, change, here, rfl, ⟨t, sub, about, found, turn⟩ | ⟨-, errand⟩⟩ := after_of_proceed taken
    · obtain ⟨now, -, tracks⟩ := turn.tracks (sound.kept t sub found) found here
      have there : (k, ⟨s, c⟩) ∈ change.routes := there
      rcases tracks.routes with same | ⟨k', -, dropped⟩ | ⟨p, c', k', m, adding, added⟩
      · exact .inl (same ▸ there)
      · rw [dropped] at there
        exact .inl (mem_routesBut.mp there).1
      · rw [added] at there
        rcases List.mem_cons.mp there with new | old
        · cases new
          exact .inr ⟨a, p, m, rfl, adding ▸ here⟩
        · exact .inl (mem_routesBut.mp old).1
    · exact .inl (errand.routes_sublist.subset there)
  · have drifts := drifts_of_step taken fun a same => turns ⟨a, same⟩
    exact .inl (drifts.routes ▸ there)

theorem Agreed.step (agreed : sys.Agreed) (sound : sys.Sound) (taken : sys.step? move = some next) :
    next.Agreed := by
  refine ⟨?_, ?_⟩
  · intro k s c sub c' id there found registered
    rcases registered_of_step taken found registered with ⟨sub', found', registered'⟩ | ⟨a, p, r, late, rfl, here⟩
    · rcases routed_of_step sound taken there with old | ⟨a, p, m, -, adding⟩
      · exact agreed.recorded k s c sub' c' id old found' registered'
      · have none := ((sound.kept s sub' found').unrouted adding rfl).2
        simp [registered'] at none
    · rcases routed_of_step sound taken there with old | ⟨a', p', m, own, adding⟩
      · exact agreed.awaited k s c a p c' r late old here
      · cases own
        cases here.symm.trans adding
  · intro k s c a p c' r late there awaiting
    rcases awaiting_of_step taken awaiting with ⟨late', here⟩ | ⟨m, rfl, adding⟩
    · rcases routed_of_step sound taken there with old | ⟨b, p', m, -, adding⟩
      · exact agreed.awaited k s c a p c' r late' old here
      · cases (sound.minder here rfl adding rfl).2
    · -- the route that it has made is the only one with its correlation id
      rw [(step_addRoute adding taken).1] at there
      rcases List.mem_cons.mp there with new | old
      · cases new
        rfl
      · exact absurd rfl (mem_routesBut.mp old).2

theorem keys_of_step (sound : sys.Sound) (keys : (sys.routes.map (·.1)).Nodup) (taken : sys.step? move = some next) :
    (next.routes.map (·.1)).Nodup := by
  by_cases turns : ∃ a, move = .proceed a
  · obtain ⟨a, rfl⟩ := turns
    obtain ⟨stage, change, here, rfl, ⟨t, sub, about, found, turn⟩ | ⟨-, errand⟩⟩ := after_of_proceed taken
    · obtain ⟨now, -, tracks⟩ := turn.tracks (sound.kept t sub found) found here
      exact tracks.keys keys
    · exact keys.sublist (errand.routes_sublist.map _)
  · rw [(drifts_of_step taken fun a same => turns ⟨a, same⟩).routes]
    exact keys

/-! ## What there is at any time -/

/-- No subscription has two routes. -/
theorem nodup_subscriptions (sound : sys.Sound) (minded : sys.Minded) (keys : (sys.routes.map (·.1)).Nodup) :
    (sys.routes.map (·.2.subscription)).Nodup := by
  refine List.Nodup.map_on ?_ keys.of_map
  rintro ⟨k, ⟨s, c⟩⟩ there ⟨k', ⟨s', c'⟩⟩ there' (rfl : s = s')
  obtain rfl := (minded k s c there).unique (minded k' s c' there') sound
  exact List.inj_on_of_nodup_map keys there there' rfl

/-- Where nobody has the lock of a subscription, its route is the one that is on record. -/
theorem registered_of_free (sound : sys.Sound) (minded : sys.Minded) (agreed : sys.Agreed)
    (there : (k, ⟨s, c⟩) ∈ sys.routes) (found : sys.subscription? s = some sub) (free : sub.holder = none) :
    s ∈ sys.table ∧ sub.state = .active ∧ ∃ id, sub.registration = ⟨some c, some id, some k⟩ := by
  have kept := sound.kept s sub found
  obtain ⟨sub', found', routed⟩ | ⟨a, stage, here, minds⟩ := minded k s c there
  · obtain rfl := Option.some.inj (found.symm.trans found')
    cases (kept.free free).2 with
    | @active c' id k' live listed _ registered =>
      obtain rfl : k' = k := by simpa [registered] using routed
      obtain rfl := agreed.recorded k' s c sub c' id there found registered
      exact ⟨listed, live, id, registered⟩
    | failed _ _ _ none | removed _ _ none => simp [none, Registration.none] at routed
  · obtain ⟨has, -⟩ := kept.unrouted here minds
    cases free.symm.trans has

/-- The route of a subscription that does not count is about to be dropped by whoever took it
    out of the table. -/
theorem dropping_of_unlisted (sound : sys.Sound) (minded : sys.Minded) (there : (k, ⟨s, c⟩) ∈ sys.routes)
    (absent : s ∉ sys.table) : ∃ a token, sys.stage? a = some (.dropRoute s k (.unsubscribe token)) := by
  rcases minded k s c there with ⟨sub, found, routed⟩ | ⟨a, stage, here, minds⟩
  · exact absurd (mem_table_of_routed sound found routed) absent
  · cases stage <;> simp only [Stage.minds?, Option.some.injEq, Prod.mk.injEq, reduceCtorEq] at minds <;>
      obtain ⟨rfl, rfl⟩ := minds <;> obtain ⟨sub, found⟩ := subscription?_of_lt (sound.about a _ _ here rfl) <;>
      obtain ⟨-, holds⟩ := (sound.kept _ sub found).has here rfl (by simp)
    case dropRoute goal =>
      cases goal with
      | unsubscribe token => exact ⟨a, token, here⟩
      | reinstall => exact absurd (mem_table_of_installing (p := .again) holds) absent
      | registration => exact holds.elim
    all_goals exact absurd (mem_table_of_installing holds) absent

/-- Whoever is about to drop a route does so in its next turn, and nothing holds that up. -/
theorem step_dropRoute {token : Option TokenId} (sound : sys.Sound)
    (here : sys.stage? a = some (.dropRoute s k (.unsubscribe token))) :
    ∃ next, sys.step? (.proceed a) = some next ∧ next.routes = sys.routesBut k := by
  obtain ⟨sub, found⟩ := subscription?_of_lt (sound.about a _ s here rfl)
  obtain ⟨next, taken⟩ : ∃ next, sys.step? (.proceed a) = some next := by
    simp [step?, proceed, here, Stage.subscription?, found, proceedOn]
  obtain ⟨stage, change, here', rfl, ⟨t, sub', about, -, turn⟩ | ⟨alone, -⟩⟩ := after_of_proceed taken
  · obtain rfl := Option.some.inj (here.symm.trans here')
    obtain rfl : s = t := Option.some.inj about
    exact ⟨_, taken, routes_of_ends turn (c := 0) (.unsubscribed token)⟩
  · obtain rfl := Option.some.inj (here.symm.trans here')
    cases alone

/-- Nobody has the lock of a subscription while nobody is at a lock. -/
theorem Kept.free_of_idle (kept : sys.Kept s sub)
    (idle : ∀ a stage, sys.stage? a = some stage → stage.engages? = none) : sub.holder = none := by
  cases has : sub.holder with
  | none => rfl
  | some a =>
    obtain ⟨stage, here, engaged, -⟩ := kept.holder a has
    cases (idle a stage here).symm.trans engaged

/-- While nobody is at a lock, there are no more routes than subscriptions that count. -/
theorem length_routes_le (sound : sys.Sound) (minded : sys.Minded) (agreed : sys.Agreed)
    (keys : (sys.routes.map (·.1)).Nodup)
    (idle : ∀ a stage, sys.stage? a = some stage → stage.engages? = none) :
    sys.routes.length ≤ sys.table.length := by
  have listed : sys.routes.map (·.2.subscription) ⊆ sys.table := by
    intro s there
    obtain ⟨⟨k, ⟨s, c⟩⟩, routed, rfl⟩ := List.mem_map.mp there
    obtain ⟨sub, found⟩ := subscription?_of_lt (sound.routed _ routed)
    exact (registered_of_free sound minded agreed routed found ((sound.kept s sub found).free_of_idle idle)).1
  have fewer := (List.subperm_of_subset (nodup_subscriptions sound minded keys) listed).length_le
  rwa [List.length_map] at fewer
end

/-! ## Through a run -/

section
variable {limit : Timespan} {surroundings : σ} {past : List (Step (System σ κ) (Move σ κ))} {sys : System σ κ}

theorem agreed_of_past (run : Past step? (System.new limit surroundings) past sys) : sys.Agreed := by
  induction run with
  | start => exact ⟨by simp [System.new], by simp [System.new]⟩
  | step move run taken ih => exact ih.step (sound_of_past run) taken

theorem keys_of_past (run : Past step? (System.new limit surroundings) past sys) :
    (sys.routes.map (·.1)).Nodup := by
  induction run with
  | start => exact List.nodup_nil
  | step move run taken ih => exact keys_of_step (sound_of_past run) ih taken
end

end System
end Datagrid
