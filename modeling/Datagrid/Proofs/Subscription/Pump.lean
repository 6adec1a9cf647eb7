import Datagrid.Proofs.Subscription.Calls

/-!
Pumps: events that come one after the other are attended to one after the other. A pump begins an activity for
the oldest event that waits, and waits until that is done. So the calls that its activities make are those of the
first event, in their order, then those of the second, and so on, whatever else happens in between.
-/
namespace Datagrid

variable {σ κ : Type}

/-- The events that a move adds to those that wait for a pump. -/
def Move.offers (move : Move σ κ) (p : ActivityId) : List (ConnectionId × Message) :=
  match move with
  | .offer q c m => if q = p then [(c, m)] else []
  | _ => []

@[simp] theorem Move.offers_proceed (a p : ActivityId) : (.proceed a : Move σ κ).offers p = [] := rfl

@[simp] theorem Move.offers_called (a p : ActivityId) : (.called a : Move σ κ).offers p = [] := rfl

namespace Step

/-- The call of an activity that has been made when a step is over. -/
def made (e : Step (System σ κ) (Move σ κ)) (a : ActivityId) : List κ :=
  match e.before.stage? a with
  | some (.call calls) => calls.take (e.isCall a).toNat
  | _ => []

/-- The call that has been made, if it is one of the activity that a pump waits for. -/
def pumped (e : Step (System σ κ) (Move σ κ)) (p : ActivityId) : List κ :=
  match e.before.stage? p with
  | some (.pump _ (some a)) => e.made a
  | _ => []

/-- A step that gets a pump on: a turn of its own, or a turn or a call of the activity that it waits for. -/
inductive Drives (e : Step (System σ κ) (Move σ κ)) (p : ActivityId) : Prop
  | turn : e.move = .proceed p → Drives e p
  | attend {feed : Feed (ConnectionId × Message)} {a : ActivityId} : e.before.stage? p = some (.pump feed (some a)) →
      e.move = .proceed a ∨ e.move = .called a → Drives e p

theorem Drives.offers {e : Step (System σ κ) (Move σ κ)} {p : ActivityId} (drives : e.Drives p) :
    e.move.offers p = [] := by
  cases drives with
  | turn own => rw [own, Move.offers_proceed]
  | attend _ own =>
    rcases own with own | own
    · rw [own, Move.offers_proceed]
    · rw [own, Move.offers_called]

end Step

namespace Listener

/-- An event for a listener: it comes on a connection with a correlation id, and leads to calls. -/
structure Hears (listener : Listener σ κ) (c : ConnectionId) (k : Int64) (x : ConnectionId × Message) : Prop where
  connection : x.1 = c
  correlation : x.2.correlation = .ok k
  calls : ∀ around, ∃ calls, listener.calls around x.2 = .ok calls

/-- The calls that a listener has for a message, at some time of a run. -/
def Answers (listener : Listener σ κ) (past : List (Step (System σ κ) (Move σ κ))) (m : Message) (calls : List κ) :
    Prop :=
  ∃ e ∈ past, listener.calls e.before.surroundings m = .ok calls

/-- The calls that a listener has for messages, those for the first message before those for the second, and so on. -/
def AnswersAll (listener : Listener σ κ) (past : List (Step (System σ κ) (Move σ κ)))
    (heard : List (ConnectionId × Message)) (calls : List κ) : Prop :=
  ∃ groups, List.Forall₂ (fun x group => listener.Answers past x.2 group) heard groups ∧ calls = groups.flatten

theorem AnswersAll.mono {listener : Listener σ κ} {past more : List (Step (System σ κ) (Move σ κ))}
    {heard : List (ConnectionId × Message)} {calls : List κ} (answers : listener.AnswersAll past heard calls) :
    listener.AnswersAll (past ++ more) heard calls := by
  obtain ⟨groups, each, all⟩ := answers
  refine ⟨groups, each.imp fun x group => ?_, all⟩
  rintro ⟨e, there, called⟩
  exact ⟨e, List.mem_append_left _ there, called⟩

theorem AnswersAll.snoc {listener : Listener σ κ} {past : List (Step (System σ κ) (Move σ κ))}
    {heard : List (ConnectionId × Message)} {calls group : List κ} {x : ConnectionId × Message}
    (answers : listener.AnswersAll past heard calls) (last : listener.Answers past x.2 group) :
    listener.AnswersAll past (heard ++ [x]) (calls ++ group) := by
  obtain ⟨groups, each, rfl⟩ := answers
  exact ⟨groups ++ [group], List.rel_append each (.cons last .nil), by simp⟩

end Listener

/-- What a reader finds in a feed that has lost nothing. -/
theorem Feed.take_of_whole {α : Type} {f : Feed α} (whole : f.lagged = false) :
    f.take = match f.items with
      | a :: rest => .item a { f with items := rest }
      | [] => if f.closed then .closed else .empty := by
  simp only [take, whole]
  cases f.items <;> rfl

namespace System

/-- The events that were added to those that wait for a pump, the oldest first. -/
def offered (past : List (Step (System σ κ) (Move σ κ))) (p : ActivityId) : List (ConnectionId × Message) :=
  past.flatMap (·.move.offers p)

/-- The calls that were made by the activities that a pump has waited for, the oldest first. -/
def pumpedCalls (past : List (Step (System σ κ) (Move σ κ))) (p : ActivityId) : List κ := past.flatMap (·.pumped p)

/-- Events with a correlation id find the route of a subscription that counts. -/
structure RoutesTo (sys : System σ κ) (k : Int64) (c : ConnectionId) (s : SubscriptionId) : Prop where
  routed : sys.route? k = some ⟨s, c⟩
  listed : s ∈ sys.table

/-- A pump has nothing to do, or nothing to do any more. -/
inductive Rests (sys : System σ κ) (p : ActivityId) : Prop
  | idle {feed : Feed (ConnectionId × Message)} : sys.stage? p = some (.pump feed none) → feed.items = [] → Rests sys p
  | ended : sys.stage? p = some (.done .finished) → Rests sys p

/-- The calls that the activity that a pump waits for has still to make, the first of which is under way. -/
def remaining (sys : System σ κ) (p : ActivityId) : List κ :=
  match sys.stage? p with
  | some (.pump _ (some a)) =>
    match sys.stage? a with
    | some (.call calls) => calls
    | _ => []
  | _ => []

/-- What an activity that a pump waits for has still to do: a message that it has not handed over, or calls. -/
inductive Works (sys : System σ κ) (k : Int64) (c : ConnectionId) (s : SubscriptionId) :
    Option ActivityId → List (ConnectionId × Message) → List κ → Prop
  | nothing : Works sys k c s none [] []
  | event {a : ActivityId} {m : Message} : sys.stage? a = some (.event c m) → Works sys k c s (some a) [(c, m)] []
  | route {a : ActivityId} {m : Message} : sys.stage? a = some (.route c k m) → Works sys k c s (some a) [(c, m)] []
  | deliver {a : ActivityId} {m : Message} : sys.stage? a = some (.deliver s m) → Works sys k c s (some a) [(c, m)] []
  | call {a : ActivityId} {calls : List κ} : sys.stage? a = some (.call calls) → Works sys k c s (some a) [] calls
  | returned {a : ActivityId} : sys.stage? a = some (.done .finished) → Works sys k c s (some a) [] []

/-- How far a pump has got: of the events that have arrived, the first were heard, and their calls have been made but
    for those that are left; one more may be under way; and the others wait. -/
inductive Pumping (sys : System σ κ) (listener : Listener σ κ) (k : Int64) (c : ConnectionId) (s : SubscriptionId)
    (past : List (Step (System σ κ) (Move σ κ))) (p : ActivityId) (arrived : List (ConnectionId × Message))
    (made : List κ) : Prop
  | on {feed : Feed (ConnectionId × Message)} {child : Option ActivityId} {heard pending : List (ConnectionId × Message)}
      {left : List κ} : sys.stage? p = some (.pump feed child) → feed.lagged = false → sys.Works k c s child pending left →
      arrived = heard ++ (pending ++ feed.items) → listener.AnswersAll past heard (made ++ left) →
      Pumping sys listener k c s past p arrived made
  | ended : sys.stage? p = some (.done .finished) → listener.AnswersAll past arrived made →
      Pumping sys listener k c s past p arrived made

/-- All that can become of a pump in a step, if none of its events is ever lost. -/
inductive Pumps (sys : System σ κ) (p : ActivityId) (feed : Feed (ConnectionId × Message)) (move : Move σ κ)
    (next : System σ κ) : Option ActivityId → Prop
  /-- It has no turn; an event may have been added, or its feed closed. -/
  | rests (child : Option ActivityId) (later : Feed (ConnectionId × Message)) : move ≠ .proceed p →
      next.stage? p = some (.pump later child) → later.lagged = feed.lagged →
      later.items = feed.items ++ move.offers p → Pumps sys p feed move next child
  | heard (a : ActivityId) : move = .proceed p → sys.isDone a = true → next.stage? p = some (.pump feed none) →
      Pumps sys p feed move next (some a)
  | takes (c : ConnectionId) (m : Message) (rest : Feed (ConnectionId × Message)) : move = .proceed p →
      feed.items = (c, m) :: rest.items → rest.lagged = feed.lagged →
      next.stage? p = some (.pump rest (some sys.activities.length)) →
      next.stage? sys.activities.length = some (.event c m) → Pumps sys p feed move next none
  | ended : move = .proceed p → feed.items = [] → next.stage? p = some (.done .finished) →
      Pumps sys p feed move next none

section
variable {sys next : System σ κ} {a b p : ActivityId} {move : Move σ κ} {feed : Feed (ConnectionId × Message)}
  {child : Option ActivityId}

theorem stage?_become_self {stage later : Stage σ κ} (here : sys.stage? a = some stage) :
    (sys.become a later).stage? a = some later := by
  simp [stage?, become, lt_of_stage? here]

theorem stage?_become_of_ne (other : b ≠ a) (later : Stage σ κ) : (sys.become a later).stage? b = sys.stage? b := by
  simp [stage?, become, List.getElem?_set_ne (Ne.symm other)]

theorem shift_eq_some {f : Stage σ κ → Option (Stage σ κ)} :
    sys.shift a f = some next ↔
      ∃ stage later, sys.stage? a = some stage ∧ f stage = some later ∧ next = sys.become a later := by
  simp only [shift, Option.bind_eq_bind, Option.bind_eq_some_iff, Option.pure_def, Option.some.injEq]
  constructor
  · rintro ⟨stage, here, later, shifted, rfl⟩
    exact ⟨stage, later, here, shifted, rfl⟩
  · rintro ⟨stage, later, here, shifted, rfl⟩
    exact ⟨stage, here, later, shifted, rfl⟩

/-- An activity that is shifted is another, or comes to what it is shifted to. -/
theorem stage?_of_shift {f : Stage σ κ → Option (Stage σ κ)} {stage : Stage σ κ} (taken : sys.shift a f = some next)
    (here : sys.stage? b = some stage) : (b ≠ a ∧ next.stage? b = some stage) ∨ b = a ∧ next.stage? b = f stage := by
  obtain ⟨stage', later, there, shifted, rfl⟩ := shift_eq_some.mp taken
  by_cases same : b = a
  · subst same
    obtain rfl := Option.some.inj (here.symm.trans there)
    exact .inr ⟨rfl, by rw [stage?_become_self here, shifted]⟩
  · exact .inl ⟨same, by rwa [stage?_become_of_ne same]⟩

/-! ## Steps of a pump -/

private theorem pumps_of_turn (taken : sys.step? (.proceed p) = some next)
    (here : sys.stage? p = some (.pump feed child)) (whole : feed.lagged = false) :
    Pumps sys p feed (.proceed p) next child := by
  obtain ⟨stage, change, here', rfl, ⟨s, sub, about, -⟩ | ⟨-, errand⟩⟩ := after_of_proceed taken
  all_goals obtain rfl := Option.some.inj (here.symm.trans here')
  · cases about
  have own : (sys.after p change).stage? p = some change.stage := stage?_after_self here
  cases errand with
  | pumped _ done => exact .heard _ rfl done own
  | @pump _ rest c m found =>
    have begun : sys.activities.length ≠ p := Nat.ne_of_gt (lt_of_stage? here)
    have child : (sys.after p (sys.waiting (.event c m) (.pump rest))).stage? sys.activities.length =
        some (.event c m) := by
      rw [stage?_after_of_ne begun]
      simp [waiting]
    rw [Feed.take_of_whole whole] at found
    split at found
    · next x xs items =>
      obtain ⟨rfl, rfl⟩ := Feed.Found.item.inj found
      exact .takes c m { feed with items := xs } rfl items rfl own child
    · split at found <;> cases found
  | pumpOn found =>
    rw [Feed.take_of_whole whole] at found
    split at found
    · cases found
    · split at found <;> cases found
  | dry found =>
    rw [Feed.take_of_whole whole] at found
    split at found
    · cases found
    · next items => exact .ended rfl items own

/-- In every step one of these becomes of a pump. -/
theorem pumps_of_step (taken : sys.step? move = some next) (here : sys.stage? p = some (.pump feed child))
    (whole : feed.lagged = false) : Pumps sys p feed move next child := by
  by_cases own : move = .proceed p
  · subst own
    exact pumps_of_turn taken here whole
  have still (there : next.stage? p = some (.pump feed child)) (none : move.offers p = []) :
      Pumps sys p feed move next child :=
    .rests child feed own there rfl (by rw [none, List.append_nil])
  cases move with
  | proceed b =>
    obtain ⟨stage, change, -, rfl, -⟩ := after_of_proceed taken
    have other : p ≠ b := by
      rintro rfl
      exact own rfl
    exact still (stage?_after_of_some other here) rfl
  | offer q c m =>
    rcases stage?_of_shift taken here with ⟨other, there⟩ | ⟨rfl, there⟩
    · exact still there (if_neg (Ne.symm other))
    · obtain ⟨later, there'⟩ := stage?_lasts taken here
      rw [there, Option.map_eq_some_iff] at there'
      obtain ⟨grown, offered, rfl⟩ := there'
      simp only [offered, Option.map_some] at there
      rw [Feed.offer?] at offered
      split at offered
      · cases offered
      · obtain rfl := Option.some.inj offered
        exact .rests child _ own there rfl (by simp [Move.offers])
  | closePump q =>
    rcases stage?_of_shift taken here with ⟨other, there⟩ | ⟨rfl, there⟩
    · exact still there rfl
    · exact .rests child feed.close own there rfl (List.append_nil _).symm
  | expire b =>
    rcases stage?_of_shift taken here with ⟨-, there⟩ | ⟨rfl, there⟩
    · exact still there rfl
    · obtain ⟨later, there'⟩ := stage?_lasts taken here
      cases there.symm.trans there'
  | called b =>
    rcases stage?_of_shift taken here with ⟨-, there⟩ | ⟨rfl, there⟩
    · exact still there rfl
    · obtain ⟨later, there'⟩ := stage?_lasts taken here
      cases there.symm.trans there'
  | begin beginning =>
    obtain rfl := Option.some.inj taken
    exact still (stage?_begin_of_some _ here) rfl
  | send r | answer r reply =>
    simp only [step?, advance, Option.bind_eq_bind, Option.bind_eq_some_iff] at taken
    obtain ⟨request, -, phase, -, same⟩ := taken
    obtain rfl := Option.some.inj same
    exact still here rfl
  | publish event =>
    obtain rfl := Option.some.inj taken
    refine still ?_ rfl
    rw [stage?] at here ⊢
    simp [here, Stage.mapFeed]
  | closeEvents =>
    obtain rfl := Option.some.inj taken
    refine still ?_ rfl
    rw [stage?] at here ⊢
    simp [here, Stage.mapFeed]
  | cancel token | use connection | surround surroundings =>
    obtain rfl := Option.some.inj taken
    exact still here rfl

/-- No pump ever loses an event. -/
theorem whole_of_past {limit : Timespan} {surroundings : σ} {past : List (Step (System σ κ) (Move σ κ))}
    (run : Past step? (System.new limit surroundings) past sys) (here : sys.stage? p = some (.pump feed child)) :
    feed.lagged = false := by
  induction run generalizing p feed child with
  | start => cases here
  | @step past now next move run taken ih =>
    rcases stage?_of_step taken here with
      ⟨stage, change, rfl, before, rfl, same, ⟨s, sub, -, -, turn⟩ | ⟨-, errand⟩⟩ | ⟨idle, stage, before, drift⟩ |
        ⟨-, begins⟩
    · cases turn <;> cases same
    · cases errand with
      | pumped feed' _ =>
        cases same
        exact ih before
      | pump found =>
        cases same
        have whole := ih before
        rw [Feed.take_of_whole whole] at found
        split at found
        · obtain ⟨-, rfl⟩ := Feed.Found.item.inj found
          exact whole
        · split at found <;> cases found
      | pumpOn found =>
        rw [Feed.take_of_whole (ih before)] at found
        split at found
        · cases found
        · split at found <;> cases found
      | _ => cases same
    · cases drift with
      | same => exact ih before
      | pump earlier _ _ =>
        have whole := ih before
        cases pumps_of_step taken before whole with
        | rests _ later _ there lagged _ =>
          cases here.symm.trans there
          exact lagged.trans whole
        | heard a own => exact absurd own idle
        | takes c m rest own => exact absurd own idle
        | ended own => exact absurd own idle
    · generalize same : Stage.pump feed child = stage at begins
      cases begins with
      | asked beginning =>
        cases beginning <;> cases same
        rfl
      | release | reinstall => cases same

end

/-! ## Steps of the activity that a pump waits for -/

section
variable {sys next : System σ κ} {a p : ActivityId} {move : Move σ κ} {feed : Feed (ConnectionId × Message)}
  {child : Option ActivityId} {k : Int64} {c : ConnectionId} {s : SubscriptionId} {sub : Subscription σ κ} {m : Message}
  {pending : List (ConnectionId × Message)} {left : List κ}

theorem made_of_other {stage : Stage σ κ} (here : sys.stage? a = some stage) (silent : ∀ calls, stage ≠ .call calls) :
    Step.made ⟨sys, move, next⟩ a = [] := by
  cases stage with
  | call calls => exact absurd rfl (silent calls)
  | _ => simp [Step.made, here]

/-- An activity without a turn stays at a stage that drifts to no other. -/
private theorem still_of_idle {stage : Stage σ κ} (taken : sys.step? move = some next) (idle : move ≠ .proceed a)
    (here : sys.stage? a = some stage) (stays : ∀ later, stage.Drift later → later = stage) :
    next.stage? a = some stage := by
  obtain ⟨later, there, drift⟩ := drift_of_step taken idle here
  rw [there, stays later drift]

/-- An event of the route is looked up, found to be for the subscription, and handed to its listener. The calls that
    its listener has for it are made then, one after the other. -/
theorem Works.step (works : sys.Works k c s (some a) pending left) (routes : sys.RoutesTo k c s)
    (found : sys.subscription? s = some sub) (live : sub.state ≠ .removed)
    (hears : ∀ x ∈ pending, sub.listener.Hears c k x) (taken : sys.step? move = some next) :
    ∃ pending' left', next.Works k c s (some a) pending' left' ∧
      ((pending' = pending ∧ left = Step.made ⟨sys, move, next⟩ a ++ left') ∨
        ∃ x, pending = [x] ∧ pending' = [] ∧ left = [] ∧ Step.made ⟨sys, move, next⟩ a = [] ∧
          sub.listener.calls sys.surroundings x.2 = .ok left') := by
  cases works with
  | @event _ m here =>
    have none : Step.made ⟨sys, move, next⟩ a = [] := made_of_other here (by simp)
    by_cases own : move = .proceed a
    · subst own
      obtain ⟨stage, change, here', rfl, ⟨t, _, about, -⟩ | ⟨-, errand⟩⟩ := after_of_proceed taken
      all_goals obtain rfl := Option.some.inj (here.symm.trans here')
      · cases about
      have read := (hears _ (List.mem_singleton_self _)).correlation
      cases errand with
      | event _ read' =>
        obtain rfl : k = _ := Except.ok.inj (read.symm.trans read')
        exact ⟨_, [], .route (stage?_after_self here), .inl ⟨rfl, by rw [none]; rfl⟩⟩
      | malformed _ read' => cases read.symm.trans read'
    · have there := still_of_idle taken own here fun later drift => by cases drift; rfl
      exact ⟨_, [], .event there, .inl ⟨rfl, by rw [none]; rfl⟩⟩
  | @route _ m here =>
    have none : Step.made ⟨sys, move, next⟩ a = [] := made_of_other here (by simp)
    by_cases own : move = .proceed a
    · subst own
      obtain ⟨next', taken', there, -⟩ := step_route here routes.routed
      obtain rfl := Option.some.inj (taken.symm.trans taken')
      exact ⟨_, [], .deliver there, .inl ⟨rfl, by rw [none]; rfl⟩⟩
    · have there := still_of_idle taken own here fun later drift => by cases drift; rfl
      exact ⟨_, [], .route there, .inl ⟨rfl, by rw [none]; rfl⟩⟩
  | @deliver _ m here =>
    have none : Step.made ⟨sys, move, next⟩ a = [] := made_of_other here (by simp)
    by_cases own : move = .proceed a
    · subst own
      obtain ⟨calls, called⟩ := (hears _ (List.mem_singleton_self _)).calls sys.surroundings
      obtain ⟨next', taken', -, there⟩ := step_deliver_calls here found routes.listed live called
      obtain rfl := Option.some.inj (taken.symm.trans taken')
      exact ⟨[], calls, .call there, .inr ⟨_, rfl, rfl, rfl, none, called⟩⟩
    · have there := still_of_idle taken own here fun later drift => by cases drift; rfl
      exact ⟨_, [], .deliver there, .inl ⟨rfl, by rw [none]; rfl⟩⟩
  | call here =>
    have calling : sys.Calling a left 0 := .more here (Nat.zero_le _)
    have made : Step.made ⟨sys, move, next⟩ a = left.take (Step.isCall ⟨sys, move, next⟩ a).toNat := by
      simp [Step.made, here]
    have split := (List.take_append_drop (Step.isCall ⟨sys, move, next⟩ a).toNat left).symm
    obtain ⟨-, goesOn⟩ := calling.step taken
    rw [Nat.zero_add] at goesOn
    cases goesOn with
    | more there _ => exact ⟨[], _, .call there, .inl ⟨rfl, by rw [made]; exact split⟩⟩
    | all there all =>
      refine ⟨[], [], .returned there, .inl ⟨rfl, ?_⟩⟩
      rw [made, all, List.take_length, List.append_nil]
  | returned here =>
    have none : Step.made ⟨sys, move, next⟩ a = [] := made_of_other here (by simp)
    exact ⟨[], [], .returned (done_of_step here taken).1, .inl ⟨rfl, by rw [none]; rfl⟩⟩

end

/-! ## How far a pump has got -/

section
variable {sys next : System σ κ} {a p : ActivityId} {move : Move σ κ} {k : Int64} {c : ConnectionId} {s : SubscriptionId}
  {sub : Subscription σ κ} {past : List (Step (System σ κ) (Move σ κ))} {arrived : List (ConnectionId × Message)}
  {made : List κ}

theorem silent_of_turn {feed : Feed (ConnectionId × Message)} {child : Option ActivityId}
    (here : sys.stage? p = some (.pump feed child)) : Step.pumped ⟨sys, .proceed p, next⟩ p = [] := by
  cases child with
  | none => simp [Step.pumped, here]
  | some a =>
    simp only [Step.pumped, here, Step.made]
    split <;> simp [Step.isCall]

/-- Every step takes a pump as far as it says, with the events that it adds and the call that it makes. -/
theorem Pumping.step (pumping : sys.Pumping sub.listener k c s past p arrived made) (routes : sys.RoutesTo k c s)
    (found : sys.subscription? s = some sub) (live : sub.state ≠ .removed)
    (hears : ∀ x ∈ arrived, sub.listener.Hears c k x) (taken : sys.step? move = some next) :
    next.Pumping sub.listener k c s (past ++ [⟨sys, move, next⟩]) p
      (arrived ++ move.offers p) (made ++ Step.pumped ⟨sys, move, next⟩ p) := by
  cases pumping with
  | ended here answers =>
    have silent : Step.pumped ⟨sys, move, next⟩ p = [] := by simp [Step.pumped, here]
    have deaf : move.offers p = [] := by
      cases move with
      | offer q c m =>
        refine if_neg ?_
        rintro rfl
        simp [step?, shift, here] at taken
      | _ => rfl
    rw [silent, deaf, List.append_nil, List.append_nil]
    exact .ended (done_of_step here taken).1 answers.mono
  | @on feed child heard pending left here whole works split answers =>
    subst split
    cases pumps_of_step taken here whole with
    | rests _ later own there lagged items =>
      cases child with
      | none =>
        have silent : Step.pumped ⟨sys, move, next⟩ p = [] := by simp [Step.pumped, here]
        cases works
        rw [silent, List.append_nil, List.append_assoc, List.append_assoc, ← items]
        exact .on there (lagged.trans whole) .nothing rfl answers.mono
      | some a =>
        have pumped : Step.pumped ⟨sys, move, next⟩ p = Step.made ⟨sys, move, next⟩ a := by simp [Step.pumped, here]
        obtain ⟨pending', left', works', ⟨rfl, rfl⟩ | ⟨x, rfl, rfl, rfl, none, called⟩⟩ :=
          works.step routes found live (fun x there => hears x (by simp [there])) taken
        · rw [pumped, List.append_assoc, List.append_assoc, ← items]
          refine .on there (lagged.trans whole) works' rfl ?_
          rw [List.append_assoc]
          exact answers.mono
        · rw [pumped, none, List.append_nil, List.append_assoc, List.append_assoc, ← items]
          refine .on there (lagged.trans whole) works' (List.append_assoc _ _ _).symm ?_
          rw [List.append_nil] at answers
          exact answers.mono.snoc ⟨_, List.mem_append_right _ (List.mem_singleton_self _), called⟩
    | heard a own finished there =>
      subst own
      rw [silent_of_turn here, Move.offers_proceed, List.append_nil, List.append_nil]
      cases works with
      | returned => exact .on there whole .nothing rfl answers.mono
      | event here' | route here' | deliver here' | call here' => simp [isDone, outcome?, here'] at finished
    | takes c' m rest own items lagged there begun =>
      subst own
      rw [silent_of_turn here, Move.offers_proceed, List.append_nil, List.append_nil]
      cases works
      obtain rfl : c' = c := (hears (c', m) (by simp [items])).connection
      exact .on there (lagged.trans whole) (.event begun) (by rw [items]; rfl) answers.mono
    | ended own items there =>
      subst own
      rw [silent_of_turn here, Move.offers_proceed, List.append_nil, List.append_nil]
      cases works
      simp only [items, List.append_nil] at answers ⊢
      exact .ended there answers.mono

end

section
variable {limit : Timespan} {surroundings : σ} {base sys : System σ κ} {p : ActivityId} {k : Int64} {c : ConnectionId}
  {s : SubscriptionId} {sub : Subscription σ κ} {past later : List (Step (System σ κ) (Move σ κ))}
  {feed : Feed (ConnectionId × Message)}

/-- A pump gets as far as its steps have taken it. -/
theorem pumping_of_past (run : Past step? (System.new limit surroundings) past base)
    (found : base.subscription? s = some sub) (here : base.stage? p = some (.pump feed none))
    (goesOn : Past step? base later sys) (routes : ∀ e ∈ later, e.before.RoutesTo k c s)
    (hears : ∀ x ∈ feed.items ++ offered later p, sub.listener.Hears c k x) :
    sys.Pumping sub.listener k c s later p (feed.items ++ offered later p) (pumpedCalls later p) := by
  induction goesOn with
  | start =>
    have whole := whole_of_past run here
    have waiting : feed.items ++ offered ([] : List (Step (System σ κ) (Move σ κ))) p = [] ++ ([] ++ feed.items) := by
      simp [offered]
    exact .on here whole .nothing waiting ⟨[], .nil, rfl⟩
  | @step later now next move goesOn taken ih =>
    rw [forall_mem_concat] at routes
    have more : offered (later ++ [⟨now, move, next⟩]) p = offered later p ++ move.offers p := by
      simp [offered]
    have calls : pumpedCalls (later ++ [⟨now, move, next⟩]) p =
        pumpedCalls later p ++ Step.pumped ⟨now, move, next⟩ p := by
      simp [pumpedCalls]
    rw [more, ← List.append_assoc] at hears ⊢
    have earlier : ∀ x ∈ feed.items ++ offered later p, sub.listener.Hears c k x :=
      fun x there => hears x (List.mem_append_left _ there)
    obtain ⟨sub', found', own, -⟩ := listener_since goesOn found
    have live := ((sound_of_past (run.append goesOn)).kept s sub' found').live routes.2.listed
    rw [calls]
    rw [← own] at earlier ih ⊢
    exact (ih routes.1 earlier).step routes.2 found' live earlier taken

end
/-- What was called for a pump, and what is left of the event under way, are the calls for the events that it has heard.
    Where it rests these are all. -/
theorem Pumping.answers {sys : System σ κ} {listener : Listener σ κ} {k : Int64} {c : ConnectionId} {s : SubscriptionId}
    {past : List (Step (System σ κ) (Move σ κ))} {p : ActivityId} {arrived : List (ConnectionId × Message)}
    {made : List κ} (pumping : sys.Pumping listener k c s past p arrived made) :
    ∃ heard rest, arrived = heard ++ rest ∧ listener.AnswersAll past heard (made ++ sys.remaining p) ∧
      (sys.Rests p → rest = [] ∧ sys.remaining p = []) := by
  cases pumping with
  | ended here answers =>
    have none : sys.remaining p = [] := by simp [remaining, here]
    exact ⟨arrived, [], (List.append_nil _).symm, by rwa [none, List.append_nil], fun _ => ⟨rfl, none⟩⟩
  | @on feed child heard pending left here whole works split answers =>
    have same : sys.remaining p = left := by
      cases works with
      | nothing => simp [remaining, here]
      | event there | route there | deliver there | call there | returned there => simp [remaining, here, there]
    refine ⟨heard, pending ++ feed.items, split, by rwa [same], fun rests => ?_⟩
    cases rests with
    | idle here' items =>
      obtain ⟨rfl, rfl⟩ := Stage.pump.inj (Option.some.inj (here.symm.trans here'))
      cases works
      exact ⟨by rw [items]; rfl, same⟩
    | ended here' => cases here.symm.trans here'

/-! ## A pump gets to its rest -/

/-- How far a pump is from having nothing to do: first by the events that are not handed over, then by what the
    activity that it waits for has still to do for its event. -/
def toGo (sys : System σ κ) (p : ActivityId) : Nat × Nat :=
  match sys.stage? p with
  | some (.pump feed none) => (feed.items.length, 3)
  | some (.pump feed (some a)) =>
    match sys.stage? a with
    | some (.event _ _) => (feed.items.length + 1, 2)
    | some (.route _ _ _) => (feed.items.length + 1, 1)
    | some (.deliver _ _) => (feed.items.length + 1, 0)
    | some (.call calls) => (feed.items.length, calls.length + 5)
    | _ => (feed.items.length, 4)
  | _ => (0, 0)

section
variable {sys next : System σ κ} {a p : ActivityId} {move : Move σ κ} {k : Int64} {c : ConnectionId} {s : SubscriptionId}
  {sub : Subscription σ κ} {past : List (Step (System σ κ) (Move σ κ))} {arrived : List (ConnectionId × Message)}
  {made : List κ} {feed : Feed (ConnectionId × Message)} {child : Option ActivityId} {stage : Stage σ κ}

theorem RoutesTo.of_unchanged (routes : sys.RoutesTo k c s) (same : next.routes = sys.routes)
    (table : next.table = sys.table) : next.RoutesTo k c s :=
  ⟨by rw [route?, same]; exact routes.routed, by rw [table]; exact routes.listed⟩

/-- What the activity does that a pump waits for gets the pump on, and leaves the routes and the feed as they are. -/
private theorem driven_of_attending (routes : sys.RoutesTo k c s) (here : sys.stage? p = some (.pump feed (some a)))
    (whole : feed.lagged = false) (there : sys.stage? a = some stage) (attending : stage.isAttending = true)
    (own : move = .proceed a ∨ move = .called a) (taken : sys.step? move = some next) :
    Step.Drives ⟨sys, move, next⟩ p ∧ next.RoutesTo k c s ∧
      ∃ later, next.stage? p = some (.pump later (some a)) ∧ later.items = feed.items := by
  have other : a ≠ p := by
    rintro rfl
    obtain rfl := Option.some.inj (here.symm.trans there)
    cases attending
  have attends : Step.Attends ⟨sys, move, next⟩ := by
    rcases own with own | own
    · exact .turn a stage ⟨own, there⟩ attending
    · exact .call a own
  obtain ⟨-, table, same⟩ := unchanged_of_attends taken attends
  have idle : move ≠ .proceed p := by
    rintro rfl
    rcases own with own | own
    · exact other (Move.proceed.inj own).symm
    · cases own
  have drives : Step.Drives ⟨sys, move, next⟩ p := .attend here own
  cases pumps_of_step taken here whole with
  | rests _ later _ there _ items =>
    refine ⟨drives, routes.of_unchanged same table, later, there, ?_⟩
    rw [items, show move.offers p = [] from drives.offers, List.append_nil]
  | heard _ turn => exact absurd turn idle

/-- A pump that has something to do is got on by a step that is possible, and is then nearer to its rest. -/
theorem Pumping.progress (pumping : sys.Pumping sub.listener k c s past p arrived made) (routes : sys.RoutesTo k c s)
    (found : sys.subscription? s = some sub) (live : sub.state ≠ .removed)
    (hears : ∀ x ∈ arrived, sub.listener.Hears c k x) :
    sys.Rests p ∨ ∃ move next, sys.step? move = some next ∧ Step.Drives ⟨sys, move, next⟩ p ∧ next.RoutesTo k c s ∧
      Prod.Lex (· < ·) (· < ·) (next.toGo p) (sys.toGo p) := by
  cases pumping with
  | ended here => exact .inl (.ended here)
  | @on feed child heard pending left here whole works split =>
    cases works with
    | nothing =>
      cases items : feed.items with
      | nil => exact .inl (.idle here items)
      | cons x rest =>
        have taken : sys.step? (.proceed p) =
            some (sys.delegate p (.event x.1 x.2) (.pump { feed with items := rest })) := by
          simp [step?, proceed, here, Stage.subscription?, proceedAlone, Feed.take_of_whole whole, items]
        refine .inr ⟨_, _, taken, .turn rfl, routes.of_unchanged rfl rfl, ?_⟩
        cases pumps_of_step taken here whole with
        | takes c m rest' _ items' _ here' there' =>
          simp only [toGo, here, here', there', items', List.length_cons]
          exact .right _ (by decide)
        | rests _ _ idle => exact absurd rfl idle
        | ended _ none => cases items.symm.trans none
    | @event a m there =>
      have read : m.correlation = .ok k := (hears (c, m) (by simp [split])).correlation
      have taken : sys.step? (.proceed a) = some ((sys.count .message).become a (.route c k m)) := by
        simp [step?, proceed, there, Stage.subscription?, proceedAlone, read]
      have there' : ((sys.count .message).become a (.route c k m)).stage? a = some (.route c k m) :=
        stage?_become_self there
      obtain ⟨drives, routes', later, here', items⟩ := driven_of_attending routes here whole there rfl (.inl rfl) taken
      refine .inr ⟨_, _, taken, drives, routes', ?_⟩
      simp only [toGo, here, there, here', there', items]
      exact .right _ (by decide)
    | @route a m there =>
      obtain ⟨next, taken, there', -⟩ := step_route there routes.routed
      obtain ⟨drives, routes', later, here', items⟩ := driven_of_attending routes here whole there rfl (.inl rfl) taken
      refine .inr ⟨_, next, taken, drives, routes', ?_⟩
      simp only [toGo, here, there, here', there', items]
      exact .right _ (by decide)
    | @deliver a m there =>
      obtain ⟨calls, called⟩ := (hears (c, m) (by simp [split])).calls sys.surroundings
      obtain ⟨next, taken, -, there'⟩ := step_deliver_calls there found routes.listed live called
      obtain ⟨drives, routes', later, here', items⟩ := driven_of_attending routes here whole there rfl (.inl rfl) taken
      refine .inr ⟨_, next, taken, drives, routes', ?_⟩
      simp only [toGo, here, there, here', there', items]
      exact .left _ _ (Nat.lt_succ_self _)
    | @call a _ there =>
      cases left with
      | nil =>
        have taken : sys.step? (.proceed a) = some (sys.finish a .finished) := by
          simp [step?, proceed, there, Stage.subscription?, proceedAlone]
        have there' : (sys.finish a .finished).stage? a = some (.done .finished) := stage?_become_self there
        obtain ⟨drives, routes', later, here', items⟩ := driven_of_attending routes here whole there rfl (.inl rfl) taken
        refine .inr ⟨_, _, taken, drives, routes', ?_⟩
        simp only [toGo, here, there, here', there', items]
        exact .right _ (by simp)
      | cons call rest =>
        have taken : sys.step? (.called a) = some (sys.become a (.call rest)) :=
          shift_eq_some.mpr ⟨_, _, there, rfl, rfl⟩
        have there' : (sys.become a (.call rest)).stage? a = some (.call rest) := stage?_become_self there
        obtain ⟨drives, routes', later, here', items⟩ := driven_of_attending routes here whole there rfl (.inr rfl) taken
        refine .inr ⟨_, _, taken, drives, routes', ?_⟩
        simp only [toGo, here, there, here', there', items]
        exact .right _ (by simp)
    | @returned a there =>
      have taken : sys.step? (.proceed p) = some (sys.become p (.pump feed none)) := by
        simp [step?, proceed, here, Stage.subscription?, proceedAlone, isDone, outcome?, there]
      have here' : (sys.become p (.pump feed none)).stage? p = some (.pump feed none) := stage?_become_self here
      refine .inr ⟨_, _, taken, .turn rfl, routes.of_unchanged rfl rfl, ?_⟩
      simp only [toGo, here, there, here']
      exact .right _ (by decide)

/-- Whatever else a pump has to do, it gets to its rest by steps that are possible, without any new event. -/
theorem rests_of_pumping {limit : Timespan} {surroundings : σ} {before past : List (Step (System σ κ) (Move σ κ))}
    {sys : System σ κ} {sub : Subscription σ κ} {made : List κ}
    (run : Past step? (System.new limit surroundings) before sys) (routes : sys.RoutesTo k c s)
    (found : sys.subscription? s = some sub) (pumping : sys.Pumping sub.listener k c s past p arrived made)
    (hears : ∀ x ∈ arrived, sub.listener.Hears c k x) :
    ∃ more next, Past step? sys more next ∧ (∀ e ∈ more, e.Drives p) ∧ next.Rests p ∧
      next.Pumping sub.listener k c s (past ++ more) p arrived (made ++ pumpedCalls more p) := by
  have live := ((sound_of_past run).kept s sub found).live routes.listed
  rcases pumping.progress routes found live hears with rests | ⟨move, mid, taken, drives, routes', nearer⟩
  · exact ⟨[], sys, .start, by simp, rests, by simpa [pumpedCalls] using pumping⟩
  have further := pumping.step routes found live hears taken
  rw [show move.offers p = [] from drives.offers, List.append_nil] at further
  obtain ⟨sub', found', own, -⟩ := listener_of_step taken found
  rw [← own] at further hears
  obtain ⟨more, next, goesOn, driven, rests, last⟩ := rests_of_pumping (run.step move taken) routes' found' further hears
  refine ⟨⟨sys, move, mid⟩ :: more, next, (Past.start.step move taken).append goesOn, ?_, rests, ?_⟩
  · exact List.forall_mem_cons.mpr ⟨drives, driven⟩
  · rw [own] at last
    simpa [pumpedCalls] using last
termination_by sys.toGo p
decreasing_by exact nearer

end
end System
end Datagrid
