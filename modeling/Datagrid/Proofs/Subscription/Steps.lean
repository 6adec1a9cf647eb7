import Datagrid.Proofs.Subscription.Errands

/-!
Steps: a turn, an errand, or a step of the surroundings. The surroundings begin
activities, and let the others drift: their subscriptions, routes and tables stay.
-/
namespace Datagrid

variable {σ κ : Type}

/-- What may come of a stage while its activity does nothing. -/
inductive Stage.Drift : Stage σ κ → Stage σ κ → Prop where
  | same (stage : Stage σ κ) : Drift stage stage
  | lateRegistration (s : SubscriptionId) (purpose : Purpose) (connection : ConnectionId)
      (correlation : Int64) (request : RequestId) (late : Bool) :
      Drift (.awaitRegistration s purpose connection correlation request late)
        (.awaitRegistration s purpose connection correlation request true)
  | lateRemoval (s : SubscriptionId) (token : Option TokenId) (request : RequestId) (late : Bool) :
      Drift (.awaitRemoval s token request late) (.awaitRemoval s token request true)
  | called (call : κ) (calls : List κ) : Drift (.call (call :: calls)) (.call calls)
  | listen (feed later : Feed ConnectionEvent) (child : Option ActivityId) :
      Drift (.listen feed child) (.listen later child)
  | pump (feed later : Feed (ConnectionId × Message)) (child : Option ActivityId) :
      Drift (.pump feed child) (.pump later child)

/-- A stage that an activity can begin with. -/
inductive Stage.Begins : Stage σ κ → Prop where
  | asked (beginning : Beginning σ κ) : Begins beginning.stage
  | release (listener : Listener σ κ) (c : ConnectionId) (request : RequestId) :
      Begins (.release listener c request)
  | reinstall (s : SubscriptionId) (c : ConnectionId) : Begins (.lock s (.reinstall c))

namespace System

/-- A step that is no activity's turn. -/
structure Drifts (sys next : System σ κ) : Prop where
  limit : next.limit = sys.limit
  subscriptions : next.subscriptions = sys.subscriptions
  table : next.table = sys.table
  routes : next.routes = sys.routes
  correlations : next.correlations = sys.correlations
  notices : next.notices = sys.notices
  counts : next.counts = sys.counts
  /-- Nobody goes away. -/
  old : ∀ a stage, sys.stage? a = some stage → ∃ later, next.stage? a = some later ∧ stage.Drift later
  /-- Whoever is there was there, or begins something. -/
  new : ∀ a later, next.stage? a = some later →
    (∃ stage, sys.stage? a = some stage ∧ stage.Drift later) ∨
      (sys.stage? a = none ∧ ∃ beginning : Beginning σ κ, later = beginning.stage)
  /-- Requests stay what they are, however far they get. -/
  requests : ∀ (r : RequestId) (request : Request), sys.requests[r]? = some request →
    ∃ phase, next.requests[r]? = some (Request.mk request.connection request.message phase)
  total : next.requests.length = sys.requests.length

/-! ## The stages after a turn -/

section
variable {sys next : System σ κ} {a b : ActivityId} {change : Change σ κ} {stage : Stage σ κ}
  {s : SubscriptionId} {sub now now' : Subscription σ κ}

theorem lt_of_stage? (here : sys.stage? a = some stage) : a < sys.activities.length :=
  (List.getElem?_eq_some_iff.mp here).1

theorem outcome?_eq_some {outcome : Outcome} :
    sys.outcome? a = some outcome ↔ sys.stage? a = some (.done outcome) := by
  unfold outcome?
  split
  · next outcome' here => simp [here]
  · next busy => simpa using busy outcome

/-- The activity whose turn it was is where the turn has brought it. -/
theorem stage?_after_self (here : sys.stage? a = some stage) :
    (sys.after a change).stage? a = some change.stage := by
  have bound := lt_of_stage? here
  have inside : a < sys.activities.length + change.started.length := Nat.lt_add_right _ bound
  simp [stage?, inside]

theorem stage?_after_of_ne (other : b ≠ a) :
    (sys.after a change).stage? b = (sys.activities ++ change.started)[b]? := by
  simp [stage?, List.getElem?_set_ne (Ne.symm other)]

/-- The others stay where they are. -/
theorem stage?_after_of_some (other : b ≠ a) (there : sys.stage? b = some stage) :
    (sys.after a change).stage? b = some stage := by
  rw [stage?_after_of_ne other, List.getElem?_append_left (lt_of_stage? there)]
  exact there

/-- Whoever is there after a turn has had it, was there before, or has begun. -/
theorem stage?_after_cases (there : (sys.after a change).stage? b = some stage) :
    (b = a ∧ stage = change.stage) ∨ (b ≠ a ∧ sys.stage? b = some stage) ∨
      (b ≠ a ∧ sys.stage? b = none ∧ stage ∈ change.started) := by
  by_cases own : b = a
  · subst own
    left
    refine ⟨rfl, ?_⟩
    obtain ⟨bound, same⟩ := List.getElem?_eq_some_iff.mp there
    simpa using same.symm
  · right
    rw [stage?_after_of_ne own] at there
    by_cases bound : b < sys.activities.length
    · left
      rw [List.getElem?_append_left bound] at there
      exact ⟨own, there⟩
    · right
      have beyond := Nat.not_lt.mp bound
      rw [List.getElem?_append_right beyond] at there
      exact ⟨own, List.getElem?_eq_none beyond, List.mem_of_getElem? there⟩

/-- Whatever begins in a turn is there after it. -/
theorem stage?_of_started (here : sys.stage? a = some stage) {begun : Stage σ κ} (started : begun ∈ change.started) :
    ∃ b, (sys.after a change).stage? b = some begun := by
  obtain ⟨i, bound, rfl⟩ := List.mem_iff_getElem.mp started
  have other : sys.activities.length + i ≠ a := Nat.ne_of_gt (Nat.lt_add_right i (lt_of_stage? here))
  refine ⟨sys.activities.length + i, ?_⟩
  rw [stage?_after_of_ne other, List.getElem?_append_right (Nat.le_add_right _ _), Nat.add_sub_cancel_left]
  exact List.getElem?_eq_getElem bound

/-! ## The activities after one has begun -/

theorem stage?_begin_self (stage : Stage σ κ) :
    (sys.begin stage).2.stage? sys.activities.length = some stage := by
  simp [begin, stage?]

theorem stage?_begin_of_some (begun : Stage σ κ) (there : sys.stage? b = some stage) :
    (sys.begin begun).2.stage? b = some stage := by
  simp only [begin, stage?]
  rw [List.getElem?_append_left (lt_of_stage? there)]
  exact there

/-- Whoever is there was there, or has just begun. -/
theorem stage?_begin_cases {begun later : Stage σ κ} (there : (sys.begin begun).2.stage? b = some later) :
    sys.stage? b = some later ∨ sys.stage? b = none ∧ b = sys.activities.length ∧ later = begun := by
  cases before : sys.stage? b with
  | some stage => exact .inl ((stage?_begin_of_some begun before).symm.trans there)
  | none =>
    have beyond : sys.activities.length ≤ b := List.getElem?_eq_none_iff.mp before
    have bound := lt_of_stage? there
    simp only [begin, List.length_append, List.length_singleton] at bound
    obtain rfl := Nat.le_antisymm (Nat.le_of_lt_succ bound) beyond
    exact .inr ⟨rfl, rfl, Option.some.inj (there.symm.trans (stage?_begin_self begun))⟩

/-! ## The subscriptions after a turn -/

theorem subscription?_put (put : change.subscriptions = sys.subscriptions.set s now)
    (found : sys.subscription? s = some sub) : (sys.after a change).subscription? s = some now := by
  obtain ⟨bound, -⟩ := List.getElem?_eq_some_iff.mp found
  simp [subscription?, put, bound]

theorem subscription?_put_of_ne {t : SubscriptionId} (put : change.subscriptions = sys.subscriptions.set s now)
    (other : t ≠ s) : (sys.after a change).subscription? t = sys.subscription? t := by
  simp [subscription?, put, List.getElem?_set_ne (Ne.symm other)]

/-! ## Every step is one of these -/

/-- A turn of an activity, with a subscription or without. -/
theorem after_of_proceed (taken : sys.proceed a = some next) :
    ∃ stage change, sys.stage? a = some stage ∧ next = sys.after a change ∧
      ((∃ s sub, stage.subscription? = some s ∧ sys.subscription? s = some sub ∧
          Turn sys a s sub stage change) ∨
        (stage.subscription? = none ∧ Errand sys a stage change)) := by
  unfold proceed at taken
  cases here : sys.stage? a with
  | none => simp [here] at taken
  | some stage =>
    simp only [here] at taken
    cases about : stage.subscription? with
    | none =>
      simp only [about] at taken
      obtain ⟨change, errand, same⟩ := errand_of_proceedAlone about taken
      exact ⟨stage, change, rfl, same, .inr ⟨about, errand⟩⟩
    | some s =>
      simp only [about] at taken
      cases found : sys.subscription? s with
      | none => simp [found] at taken
      | some sub =>
        simp only [found] at taken
        obtain ⟨change, turn, same⟩ := turn_of_proceedOn found about taken
        exact ⟨stage, change, rfl, same, .inl ⟨s, sub, about, found, turn⟩⟩

private theorem drifts_of_activities
    (old : ∀ a stage, sys.stage? a = some stage → ∃ later, next.stage? a = some later ∧ stage.Drift later)
    (new : ∀ a later, next.stage? a = some later →
      (∃ stage, sys.stage? a = some stage ∧ stage.Drift later) ∨
        (sys.stage? a = none ∧ ∃ beginning : Beginning σ κ, later = beginning.stage))
    (same : next = { sys with activities := next.activities }) : Drifts sys next := by
  rw [same]
  exact ⟨rfl, rfl, rfl, rfl, rfl, rfl, rfl, old, new, fun r request there => ⟨request.phase, there⟩, rfl⟩

private theorem drifts_of_requests {requests : List Request}
    (kept : ∀ (r : RequestId) (request : Request), sys.requests[r]? = some request →
      ∃ phase, requests[r]? = some (Request.mk request.connection request.message phase))
    (total : requests.length = sys.requests.length) : Drifts sys { sys with requests } :=
  ⟨rfl, rfl, rfl, rfl, rfl, rfl, rfl, fun _ stage here => ⟨stage, here, .same stage⟩,
    fun _ stage here => .inl ⟨stage, here, .same stage⟩, kept, total⟩

private theorem drifts_of_rest (fired : List TokenId) (current : Option ConnectionId) (surroundings : σ) :
    Drifts sys { sys with fired, current, surroundings } :=
  ⟨rfl, rfl, rfl, rfl, rfl, rfl, rfl, fun _ stage here => ⟨stage, here, .same stage⟩,
    fun _ stage here => .inl ⟨stage, here, .same stage⟩, fun _ request there => ⟨request.phase, there⟩, rfl⟩

private theorem drifts_of_set {r : RequestId} {request : Request} (found : sys.requests[r]? = some request)
    (phase : RequestPhase) : Drifts sys { sys with requests := sys.requests.set r { request with phase } } := by
  refine drifts_of_requests ?_ (by simp)
  intro i other there
  by_cases here : r = i
  · subst here
    obtain ⟨bound, -⟩ := List.getElem?_eq_some_iff.mp found
    rw [found] at there
    obtain rfl : request = other := Option.some.inj there
    exact ⟨phase, by simp [bound]⟩
  · exact ⟨other.phase, by rw [List.getElem?_set_ne here]; exact there⟩

private theorem drifts_of_become {later : Stage σ κ} (here : sys.stage? a = some stage)
    (drift : stage.Drift later) : Drifts sys (sys.become a later) := by
  have bound := lt_of_stage? here
  have own : (sys.become a later).stage? a = some later := by simp [stage?, become, bound]
  have others (b) (other : b ≠ a) : (sys.become a later).stage? b = sys.stage? b := by
    simp [stage?, become, List.getElem?_set_ne (Ne.symm other)]
  refine drifts_of_activities ?_ ?_ rfl
  · intro b stage' there
    by_cases same : b = a
    · subst same
      rw [here] at there
      obtain rfl : stage = stage' := Option.some.inj there
      exact ⟨later, own, drift⟩
    · exact ⟨stage', by rw [others b same]; exact there, .same _⟩
  · intro b stage' there
    by_cases same : b = a
    · subst same
      rw [own] at there
      obtain rfl : later = stage' := Option.some.inj there
      exact .inl ⟨stage, here, drift⟩
    · rw [others b same] at there
      exact .inl ⟨stage', there, .same _⟩

private theorem drifts_of_mapFeed (f : Feed ConnectionEvent → Feed ConnectionEvent) :
    Drifts sys { sys with activities := sys.activities.map (Stage.mapFeed f) } := by
  have drift (stage : Stage σ κ) : stage.Drift (stage.mapFeed f) := by
    cases stage <;> first | exact .listen _ _ _ | exact .same _
  refine drifts_of_activities ?_ ?_ rfl
  · intro b stage there
    refine ⟨stage.mapFeed f, ?_, drift stage⟩
    unfold stage? at there ⊢
    simp [there]
  · intro b later there
    unfold stage? at there
    rw [List.getElem?_map] at there
    obtain ⟨stage, before, rfl⟩ := Option.map_eq_some_iff.mp there
    exact .inl ⟨stage, before, drift stage⟩

private theorem drifts_of_begin (beginning : Beginning σ κ) : Drifts sys (sys.begin beginning.stage).2 := by
  refine drifts_of_activities ?_ ?_ rfl
  · intro b stage there
    exact ⟨stage, stage?_begin_of_some _ there, .same _⟩
  · intro b later there
    rcases stage?_begin_cases there with before | ⟨new, -, same⟩
    · exact .inl ⟨later, before, .same _⟩
    · exact .inr ⟨new, beginning, same⟩

/-- All that can happen while no activity has a turn. -/
inductive Stirs (sys : System σ κ) : Move σ κ → System σ κ → Prop where
  | begins (beginning : Beginning σ κ) : Stirs sys (.begin beginning) (sys.begin beginning.stage).2
  | sends {r : RequestId} {request : Request} : sys.requests[r]? = some request → request.phase = .spawned →
      Stirs sys (.send r) { sys with requests := sys.requests.set r { request with phase := .sent } }
  | answers {r : RequestId} {request : Request} (reply : Except Fault Message) :
      sys.requests[r]? = some request → request.phase = .sent →
      Stirs sys (.answer r reply) { sys with requests := sys.requests.set r { request with phase := .answered reply } }
  /-- An activity gets on by itself, and it is none that listens. One that makes calls does so when a call has been
      made. -/
  | shifts {move : Move σ κ} {a : ActivityId} {stage later : Stage σ κ} : sys.stage? a = some stage →
      stage.Drift later → (∀ feed child, stage ≠ .listen feed child) → (∀ event, move ≠ .publish event) →
      (∀ calls, stage = .call calls → move = .called a) → Stirs sys move (sys.become a later)
  | cancels (token : TokenId) : Stirs sys (.cancel token) { sys with fired := token :: sys.fired }
  | uses (connection : Option ConnectionId) : Stirs sys (.use connection) { sys with current := connection }
  | publishes (event : ConnectionEvent) :
      Stirs sys (.publish event) { sys with activities := sys.activities.map (Stage.mapFeed (·.push event)) }
  | closes : Stirs sys .closeEvents { sys with activities := sys.activities.map (Stage.mapFeed Feed.close) }
  | surrounds (surroundings : σ) : Stirs sys (.surround surroundings) { sys with surroundings }

private theorem stirs_of_shift {move : Move σ κ} {f : Stage σ κ → Option (Stage σ κ)}
    (taken : sys.shift a f = some next) (publishes : ∀ event, move ≠ .publish event)
    (drift : ∀ stage later, f stage = some later → stage.Drift later ∧ (∀ feed child, stage ≠ .listen feed child) ∧
      ∀ calls, stage = .call calls → move = .called a) :
    sys.Stirs move next := by
  unfold shift at taken
  simp only [Option.bind_eq_bind, Option.bind_eq_some_iff] at taken
  obtain ⟨stage, here, later, shifted, same⟩ := taken
  obtain rfl : _ = next := Option.some.inj same
  obtain ⟨drift, deaf, called⟩ := drift stage later shifted
  exact .shifts here drift deaf publishes called

/-- A step is the turn of an activity, or none has a turn. -/
theorem stirs_of_step {move : Move σ κ} (taken : sys.step? move = some next) (idle : ∀ a, move ≠ .proceed a) :
    sys.Stirs move next := by
  cases move with
  | begin beginning =>
    obtain rfl : _ = next := Option.some.inj taken
    exact .begins beginning
  | proceed a => exact absurd rfl (idle a)
  | send r =>
    simp only [step?, advance, Option.bind_eq_bind, Option.bind_eq_some_iff] at taken
    obtain ⟨request, found, phase, moved, same⟩ := taken
    obtain rfl : _ = next := Option.some.inj same
    cases sent : request.phase <;> simp only [sent, Option.some.injEq, reduceCtorEq] at moved
    subst moved
    exact .sends found sent
  | answer r reply =>
    simp only [step?, advance, Option.bind_eq_bind, Option.bind_eq_some_iff] at taken
    obtain ⟨request, found, phase, moved, same⟩ := taken
    obtain rfl : _ = next := Option.some.inj same
    cases sent : request.phase <;> simp only [sent, Option.some.injEq, reduceCtorEq] at moved
    subst moved
    exact .answers reply found sent
  | expire a =>
    refine stirs_of_shift taken (by simp) ?_
    intro stage later shifted
    cases stage <;> simp only [Stage.overdue, Option.some.injEq, reduceCtorEq] at shifted <;> subst shifted
    · exact ⟨.lateRegistration .., by simp, by simp⟩
    · exact ⟨.lateRemoval .., by simp, by simp⟩
  | cancel token =>
    obtain rfl : _ = next := Option.some.inj taken
    exact .cancels token
  | use connection =>
    obtain rfl : _ = next := Option.some.inj taken
    exact .uses connection
  | publish event =>
    obtain rfl : _ = next := Option.some.inj taken
    exact .publishes event
  | closeEvents =>
    obtain rfl : _ = next := Option.some.inj taken
    exact .closes
  | offer pump connection message =>
    refine stirs_of_shift taken (by simp) ?_
    intro stage later shifted
    cases stage <;> simp only [Option.map_eq_some_iff, reduceCtorEq] at shifted
    obtain ⟨feed, -, rfl⟩ := shifted
    exact ⟨.pump .., by simp, by simp⟩
  | closePump pump =>
    refine stirs_of_shift taken (by simp) ?_
    intro stage later shifted
    cases stage <;> simp only [Option.some.injEq, reduceCtorEq] at shifted
    subst shifted
    exact ⟨.pump .., by simp, by simp⟩
  | called a =>
    refine stirs_of_shift taken (by simp) ?_
    intro stage later shifted
    split at shifted
    · obtain rfl := Option.some.inj shifted
      exact ⟨.called .., by simp, fun _ _ => rfl⟩
    · cases shifted
  | surround surroundings =>
    obtain rfl : _ = next := Option.some.inj taken
    exact .surrounds surroundings

theorem drifts_of_step {move : Move σ κ} (taken : sys.step? move = some next)
    (idle : ∀ a, move ≠ .proceed a) : Drifts sys next := by
  cases stirs_of_step taken idle with
  | begins beginning => exact drifts_of_begin beginning
  | sends found => exact drifts_of_set found _
  | answers reply found => exact drifts_of_set found _
  | shifts here drift => exact drifts_of_become here drift
  | cancels token => exact drifts_of_rest (token :: sys.fired) sys.current sys.surroundings
  | uses connection => exact drifts_of_rest sys.fired connection sys.surroundings
  | publishes event => exact drifts_of_mapFeed _
  | closes => exact drifts_of_mapFeed _
  | surrounds surroundings => exact drifts_of_rest sys.fired sys.current surroundings

private theorem begins_of_turn {s : SubscriptionId} {sub : Subscription σ κ} {begun : Stage σ κ}
    (turn : Turn sys a s sub stage change) (started : begun ∈ change.started) : begun.Begins := by
  cases turn <;> simp only [moving_started, putting_started, List.not_mem_nil] at started
  obtain rfl := List.mem_singleton.mp started
  exact .release ..

private theorem begins_of_errand {begun : Stage σ κ} (errand : Errand sys a stage change)
    (started : begun ∈ change.started) : begun.Begins := by
  cases errand with
  | connected c =>
    obtain ⟨s, -, rfl⟩ := List.mem_map.mp started
    exact .reinstall s c
  | hear =>
    obtain rfl := List.mem_singleton.mp started
    exact .asked (.react _)
  | catchUp =>
    obtain rfl := List.mem_singleton.mp started
    exact .asked (.react _)
  | pump =>
    obtain rfl := List.mem_singleton.mp started
    exact .asked (.event _ _)
  | removeNext s =>
    obtain rfl := List.mem_singleton.mp started
    exact .asked (.unsubscribe s none)
  | _ => simp at started

/-- Whatever an activity has come to, it came to in a turn of its own, or drifted
    to, or began with. -/
theorem stage?_of_step {move : Move σ κ} {later : Stage σ κ} (taken : sys.step? move = some next)
    (there : next.stage? b = some later) :
    (∃ stage change, move = .proceed b ∧ sys.stage? b = some stage ∧ next = sys.after b change ∧
        later = change.stage ∧
        ((∃ s sub, stage.subscription? = some s ∧ sys.subscription? s = some sub ∧
            Turn sys b s sub stage change) ∨
          (stage.subscription? = none ∧ Errand sys b stage change))) ∨
      (move ≠ .proceed b ∧ ∃ stage, sys.stage? b = some stage ∧ stage.Drift later) ∨
      (sys.stage? b = none ∧ later.Begins) := by
  by_cases turns : ∃ a, move = .proceed a
  · obtain ⟨a, rfl⟩ := turns
    obtain ⟨stage, change, here, rfl, kind⟩ := after_of_proceed taken
    rcases stage?_after_cases there with ⟨rfl, same⟩ | ⟨other, before⟩ | ⟨-, none, begun⟩
    · exact .inl ⟨stage, change, rfl, here, rfl, same, kind⟩
    · refine .inr (.inl ⟨?_, later, before, .same _⟩)
      rintro ⟨⟩
      exact other rfl
    · refine .inr (.inr ⟨none, ?_⟩)
      rcases kind with ⟨s, sub, -, -, turn⟩ | ⟨-, errand⟩
      · exact begins_of_turn turn begun
      · exact begins_of_errand errand begun
  · have idle (a) : move ≠ .proceed a := fun same => turns ⟨a, same⟩
    rcases (drifts_of_step taken idle).new b later there with before | ⟨none, beginning, rfl⟩
    · exact .inr (.inl ⟨idle b, before⟩)
    · exact .inr (.inr ⟨none, .asked beginning⟩)

/-- Whoever has no turn drifts. -/
theorem drift_of_step {move : Move σ κ} (taken : sys.step? move = some next) (other : move ≠ .proceed b)
    (here : sys.stage? b = some stage) : ∃ later, next.stage? b = some later ∧ stage.Drift later := by
  by_cases turns : ∃ a, move = .proceed a
  · obtain ⟨a, rfl⟩ := turns
    obtain ⟨stage', change, -, rfl, -⟩ := after_of_proceed taken
    have other : b ≠ a := by
      rintro rfl
      exact other rfl
    exact ⟨stage, stage?_after_of_some other here, .same _⟩
  · exact (drifts_of_step taken fun a same => turns ⟨a, same⟩).old b stage here

/-- Nobody goes away. -/
theorem stage?_lasts {move : Move σ κ} (taken : sys.step? move = some next) (here : sys.stage? b = some stage) :
    ∃ later, next.stage? b = some later := by
  by_cases own : move = .proceed b
  · subst own
    obtain ⟨stage', change, here', rfl, -⟩ := after_of_proceed taken
    exact ⟨_, stage?_after_self here'⟩
  · obtain ⟨later, there, -⟩ := drift_of_step taken own here
    exact ⟨later, there⟩
end

end System
end Datagrid
