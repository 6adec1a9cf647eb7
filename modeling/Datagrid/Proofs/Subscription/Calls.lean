import Datagrid.Proofs.Subscription.Delivery
import Datagrid.Proofs.Subscription.Interruption

/-!
Calls: what is done for a message, from its arrival to the last call that it leads to. A message that a listener
refuses is one error, and nobody is called. Otherwise the calls are made one after the other, and there is no error.
Whatever is done for a message, it changes no subscription and no route.
-/
namespace Datagrid

variable {σ κ : Type}

namespace Stage

/-- Whether an activity at a stage has a message that it has not handed over yet. -/
def isArriving : Stage σ κ → Bool
  | event _ _ | route _ _ _ | deliver _ _ => true
  | _ => false

/-- Whether an activity at a stage does something for a message. -/
def isAttending : Stage σ κ → Bool
  | event _ _ | route _ _ _ | deliver _ _ | call _ => true
  | _ => false

end Stage

namespace Step

/-- How many errors are counted in a step, if it is the turn of an activity. -/
def errors (e : Step (System σ κ) (Move σ κ)) (a : ActivityId) : Nat :=
  match e.move with
  | .proceed b => if b = a then e.after.counts.errors - e.before.counts.errors else 0
  | _ => 0

/-- Whether a call that an activity has to make is made in a step. -/
def isCall (e : Step (System σ κ) (Move σ κ)) (a : ActivityId) : Bool :=
  match e.move with
  | .called b => b == a
  | _ => false

/-- A step in which something is done for a message: the turn of an activity that has one, a call that is made, or
    whatever is done to the surroundings. -/
inductive Attends (e : Step (System σ κ) (Move σ κ)) : Prop where
  | turn (a : ActivityId) (stage : Stage σ κ) : e.Turns a stage → stage.isAttending = true → Attends e
  | call (a : ActivityId) : e.move = .called a → Attends e
  | surround (surroundings : σ) : e.move = .surround surroundings → Attends e

section
variable {e : Step (System σ κ) (Move σ κ)} {a : ActivityId}

theorem errors_eq_zero (other : e.move ≠ .proceed a) : e.errors a = 0 := by
  unfold errors
  split
  · next b own =>
    rw [if_neg]
    rintro rfl
    exact other own
  · rfl

theorem isCall_iff : e.isCall a = true ↔ e.move = .called a := by
  unfold isCall
  split
  · next b own => simp [own]
  · next none =>
    simp only [Bool.false_eq_true, false_iff]
    exact none a

theorem Hands.found {s : SubscriptionId} {m : Message} (hands : e.Hands a s m) :
    ∃ sub, e.before.subscription? s = some sub := by
  obtain ⟨-, -, sub, found, -⟩ := hands
  exact ⟨sub, found⟩

end

end Step

namespace System

/-- How many errors are counted in the turns of an activity. -/
def errorsOf (past : List (Step (System σ κ) (Move σ κ))) (a : ActivityId) : Nat := (past.map (·.errors a)).sum

/-- How many calls are made that an activity had to make. -/
def callsOf (past : List (Step (System σ κ) (Move σ κ))) (a : ActivityId) : Nat := past.countP (·.isCall a)

/-- An activity has made the first of its calls, and has the others to make, or has made all and is done. -/
inductive Calling (sys : System σ κ) (a : ActivityId) (calls : List κ) (made : Nat) : Prop where
  | more : sys.stage? a = some (.call (calls.drop made)) → made ≤ calls.length → Calling sys a calls made
  | all : sys.stage? a = some (.done .finished) → made = calls.length → Calling sys a calls made

theorem errorsOf_append (past later : List (Step (System σ κ) (Move σ κ))) (a : ActivityId) :
    errorsOf (past ++ later) a = errorsOf past a + errorsOf later a := by
  simp [errorsOf]

theorem callsOf_append (past later : List (Step (System σ κ) (Move σ κ))) (a : ActivityId) :
    callsOf (past ++ later) a = callsOf past a + callsOf later a :=
  List.countP_append

/-- The moves of a run show how many calls are made. -/
theorem callsOf_eq (past : List (Step (System σ κ) (Move σ κ))) (a : ActivityId) :
    callsOf past a = (past.map Step.move).countP fun move => match move with
      | .called b => b == a
      | _ => false := by
  rw [List.countP_map]
  rfl

section
variable {sys next : System σ κ} {a : ActivityId} {s : SubscriptionId} {sub : Subscription σ κ} {c : ConnectionId}
  {k : Int64} {m : Message} {move : Move σ κ} {calls : List κ}

theorem Calling.le {made : Nat} (calling : sys.Calling a calls made) : made ≤ calls.length := by
  cases calling with
  | more _ few => exact few
  | all _ all => exact Nat.le_of_eq all

/-! ## Turns of an event -/

/-- An event that finds the route of a subscription is to be delivered to it. -/
theorem step_route (here : sys.stage? a = some (.route c k m)) (routed : sys.route? k = some ⟨s, c⟩) :
    ∃ next, sys.step? (.proceed a) = some next ∧ next.stage? a = some (.deliver s m) ∧
      next.subscriptions = sys.subscriptions ∧ next.table = sys.table ∧ next.surroundings = sys.surroundings := by
  refine ⟨sys.become a (.deliver s m), ?_, ?_, rfl, rfl, rfl⟩
  · simp [step?, proceed, here, Stage.subscription?, proceedAlone, routed]
  · simp [stage?, become, lt_of_stage? here]

/-- An event that is to be delivered leads to the calls of the listener. -/
theorem step_deliver_calls (here : sys.stage? a = some (.deliver s m)) (found : sys.subscription? s = some sub)
    (listed : s ∈ sys.table) (live : sub.state ≠ .removed) (called : sub.listener.calls sys.surroundings m = .ok calls) :
    ∃ next, sys.step? (.proceed a) = some next ∧ Step.Hands ⟨sys, .proceed a, next⟩ a s m ∧
      next.stage? a = some (.call calls) := by
  obtain ⟨next, taken, handed, -⟩ := step_deliver here found
  obtain ⟨-, -, sub', found', calls'⟩ := handed.mpr ⟨listed, live⟩
  obtain rfl : sub = sub' := Option.some.inj (found.symm.trans found')
  simp only [called] at calls'
  exact ⟨next, taken, handed.mpr ⟨listed, live⟩, calls'⟩

/-- Where an event leads to calls, that is no error. -/
theorem errors_of_deliver (taken : sys.step? (.proceed a) = some next) (here : sys.stage? a = some (.deliver s m))
    (there : next.stage? a = some (.call calls)) : next.counts.errors = sys.counts.errors := by
  obtain ⟨stage, change, here', rfl, ⟨t, sub, about, -, turn⟩ | ⟨alone, -⟩⟩ := after_of_proceed taken
  all_goals obtain rfl := Option.some.inj (here.symm.trans here')
  · obtain rfl := Option.some.inj about
    rw [stage?_after_self here] at there
    cases turn with
    | deliver => rfl
    | learn acquires | tooLate acquires | beginRemoval acquires | skip acquires | dropAgain acquires => cases acquires
    | _ => cases there
  · cases alone

/-- What becomes of an event if nothing else happens: it is handed to the listener of a subscription, and leads to
    some calls. -/
def LeadsTo (sys : System σ κ) (s : SubscriptionId) (c : ConnectionId) (m : Message) (calls : List κ) : Prop :=
  let b := sys.activities.length
  ∃ found next, [Move.begin (.event c m), .proceed b, .proceed b].foldlM step? sys = some found ∧
    found.step? (.proceed b) = some next ∧ Step.Hands ⟨found, .proceed b, next⟩ b s m ∧
      next.stage? b = some (.call calls)

/-- An event that finds the route of a subscription that counts leads to the calls of its listener. -/
theorem leadsTo_of_route (found : sys.subscription? s = some sub) (listed : s ∈ sys.table) (live : sub.state ≠ .removed)
    (read : m.correlation = .ok k) (routed : sys.route? k = some ⟨s, c⟩)
    (called : sub.listener.calls sys.surroundings m = .ok calls) : sys.LeadsTo s c m calls := by
  obtain ⟨before, begun, here, routes, table, subscriptions, surroundings⟩ := lookup_of_event sys c read
  have routed' : before.route? k = some ⟨s, c⟩ := by rwa [route?, routes]
  obtain ⟨looked, turned, here', subscriptions', table', surroundings'⟩ := step_route here routed'
  have found' : looked.subscription? s = some sub := by rwa [subscription?, subscriptions', subscriptions]
  have listed' : s ∈ looked.table := by rwa [table', table]
  rw [← surroundings, ← surroundings'] at called
  obtain ⟨next, taken, hands, calls⟩ := step_deliver_calls here' found' listed' live called
  refine ⟨looked, next, ?_, taken, hands, calls⟩
  rw [show [Move.begin (.event c m), .proceed sys.activities.length, .proceed sys.activities.length] =
      [Move.begin (.event c m), .proceed sys.activities.length] ++ [.proceed sys.activities.length] from rfl,
    List.foldlM_append, begun]
  simp [turned]

/-! ## What is done for a message -/

theorem step_called (taken : sys.step? (.called a) = some next) :
    ∃ call rest, sys.stage? a = some (.call (call :: rest)) ∧ next.stage? a = some (.call rest) := by
  simp only [step?, shift, Option.bind_eq_bind, Option.bind_eq_some_iff] at taken
  obtain ⟨stage, here, later, shifted, same⟩ := taken
  obtain rfl : _ = next := Option.some.inj same
  split at shifted
  · next call rest =>
    obtain rfl := Option.some.inj shifted
    exact ⟨call, rest, here, by simp [stage?, become, lt_of_stage? here]⟩
  · cases shifted

/-- A turn that delivers a message changes no subscription and no route. -/
theorem Turn.unchanged {change : Change σ κ} (turn : Turn sys a s sub (.deliver s m) change) :
    change.subscriptions = sys.subscriptions ∧ change.table = sys.table ∧ change.routes = sys.routes := by
  cases turn with
  | missed | deliver | undeliverable => exact ⟨rfl, rfl, rfl⟩
  | learn acquires | tooLate acquires | beginRemoval acquires | skip acquires | dropAgain acquires => cases acquires
  | installAgain ready | failAgain ready =>
    cases ready with
    | unrouted acquires => cases acquires
  | removeUnregistered leaves | removeUnsaid leaves | remove leaves => cases leaves

/-- Nothing is changed about any subscription or route by what is done for a message. -/
theorem unchanged_of_attends {e : Step (System σ κ) (Move σ κ)} (taken : e.before.step? e.move = some e.after)
    (attends : e.Attends) : e.after.subscriptions = e.before.subscriptions ∧ e.after.table = e.before.table ∧
      e.after.routes = e.before.routes := by
  have drifting (idle : ∀ a, e.move ≠ .proceed a) : e.after.subscriptions = e.before.subscriptions ∧
      e.after.table = e.before.table ∧ e.after.routes = e.before.routes :=
    have drifts := drifts_of_step taken idle
    ⟨drifts.subscriptions, drifts.table, drifts.routes⟩
  cases attends with
  | turn a stage turns attending =>
    obtain ⟨own, here⟩ := turns
    rw [own] at taken
    obtain ⟨_, change, here', after, kind⟩ := after_of_proceed taken
    obtain rfl := Option.some.inj (here.symm.trans here')
    rw [after]
    rcases kind with ⟨t, sub, about, -, turn⟩ | ⟨-, errand⟩
    · cases stage with
      | deliver =>
        obtain rfl := Option.some.inj about
        exact turn.unchanged
      | event | route | call => cases about
      | _ => cases attending
    · cases errand with
      | event | malformed | routed | unrouted | called => exact ⟨rfl, rfl, rfl⟩
      | _ => cases attending
  | call a own => exact drifting (by simp [own])
  | surround surroundings own => exact drifting (by simp [own])

/-- Whoever has a message that is not handed over yet has counted no error for it, and made no call. -/
theorem arriving_of_step (taken : sys.step? move = some next) (arriving : (next.stage? a).all Stage.isArriving = true) :
    (sys.stage? a).all Stage.isArriving = true ∧ Step.errors ⟨sys, move, next⟩ a = 0 ∧
      Step.isCall ⟨sys, move, next⟩ a = false := by
  have uncalled : Step.isCall ⟨sys, move, next⟩ a = false := by
    rw [Bool.eq_false_iff, Ne, Step.isCall_iff]
    rintro rfl
    obtain ⟨call, rest, -, there⟩ := step_called taken
    simp [there, Stage.isArriving] at arriving
  have fresh (none : sys.stage? a = none) : (sys.stage? a).all Stage.isArriving = true ∧
      Step.errors ⟨sys, move, next⟩ a = 0 ∧ Step.isCall ⟨sys, move, next⟩ a = false := by
    refine ⟨by simp [none], Step.errors_eq_zero ?_, uncalled⟩
    rintro rfl
    obtain ⟨stage, change, here, -⟩ := after_of_proceed taken
    cases none.symm.trans here
  cases there : next.stage? a with
  | none =>
    refine fresh (Option.eq_none_iff_forall_ne_some.mpr fun stage here => ?_)
    obtain ⟨later, there'⟩ := stage?_lasts taken here
    cases there.symm.trans there'
  | some later =>
    simp only [there, Option.all_some] at arriving
    rcases stage?_of_step taken there with
      ⟨stage, change, rfl, here, rfl, rfl, ⟨t, sub, -, -, turn⟩ | ⟨-, errand⟩⟩ | ⟨idle, stage, here, drift⟩ | ⟨none, -⟩
    · cases turn <;> cases arriving
    · cases errand with
      | event | routed => exact ⟨by rw [here]; rfl, by simp [Step.errors, Counts.message], uncalled⟩
      | _ => cases arriving
    · refine ⟨?_, Step.errors_eq_zero idle, uncalled⟩
      rw [here]
      cases drift with
      | same => exact arriving
      | _ => cases arriving
    · exact fresh none

/-- Whoever makes calls goes on with them when one has been made. -/
theorem call_lasts (taken : sys.step? move = some next) (here : sys.stage? a = some (.call calls))
    (idle : move ≠ .proceed a) (uncalled : move ≠ .called a) : next.stage? a = some (.call calls) := by
  by_cases turns : ∃ b, move = .proceed b
  · obtain ⟨b, rfl⟩ := turns
    obtain ⟨stage, change, -, rfl, -⟩ := after_of_proceed taken
    have other : a ≠ b := by
      rintro rfl
      exact idle rfl
    exact stage?_after_of_some other here
  · cases stirs_of_step taken (by simpa using turns) with
    | begins beginning => exact stage?_begin_of_some _ here
    | @shifts _ b stage later there drift _ _ called =>
      have other : b ≠ a := by
        rintro rfl
        exact uncalled (called calls (Option.some.inj (there.symm.trans here)))
      simpa [stage?, become, List.getElem?_set_ne other] using here
    | publishes | closes =>
      unfold stage? at here ⊢
      simp [here, Stage.mapFeed]
    | _ => exact here

/-- A call is made if there is one left, and then the others are. -/
theorem call_made {made : Nat} (taken : sys.step? (.called a) = some next)
    (here : sys.stage? a = some (.call (calls.drop made))) :
    made < calls.length ∧ next.stage? a = some (.call (calls.drop (made + 1))) := by
  obtain ⟨call, rest, here', there⟩ := step_called taken
  have left : calls.drop made = call :: rest := by simpa [here] using here'
  constructor
  · rw [← List.drop_eq_nil_iff.not.trans not_le, left]
    simp
  · rw [there, ← List.drop_drop, left]
    rfl

/-- It is over when no call is left. -/
theorem all_made {made : Nat} (taken : sys.step? (.proceed a) = some next)
    (here : sys.stage? a = some (.call (calls.drop made))) :
    Step.errors ⟨sys, .proceed a, next⟩ a = 0 ∧ calls.length ≤ made ∧ next.stage? a = some (.done .finished) := by
  obtain ⟨stage, change, here', rfl, ⟨t, sub, about, -⟩ | ⟨-, errand⟩⟩ := after_of_proceed taken
  · obtain rfl := Option.some.inj (here.symm.trans here')
    cases about
  · obtain rfl := Option.some.inj (here.symm.trans here')
    generalize rest : calls.drop made = left at errand
    cases errand
    exact ⟨by simp [Step.errors], List.drop_eq_nil_iff.mp rest, stage?_after_self here⟩

/-- Whoever makes calls makes one after the other, and counts no error. -/
theorem Calling.step {made : Nat} (calling : sys.Calling a calls made) (taken : sys.step? move = some next) :
    Step.errors ⟨sys, move, next⟩ a = 0 ∧ next.Calling a calls (made + (Step.isCall ⟨sys, move, next⟩ a).toNat) := by
  cases calling with
  | more here few =>
    by_cases own : move = .proceed a
    · subst own
      obtain ⟨none, all, there⟩ := all_made taken here
      exact ⟨none, .all there (Nat.le_antisymm few all)⟩
    · refine ⟨Step.errors_eq_zero own, ?_⟩
      by_cases called : move = .called a
      · subst called
        obtain ⟨left, there⟩ := call_made taken here
        have made : Step.isCall ⟨sys, .called a, next⟩ a = true := Step.isCall_iff.mpr rfl
        rw [made, Bool.toNat_true]
        exact .more there left
      · have none : Step.isCall ⟨sys, move, next⟩ a = false :=
          Bool.eq_false_iff.mpr (Step.isCall_iff.not.mpr called)
        rw [none]
        exact .more (call_lasts taken here own called) few
  | all here all =>
    obtain ⟨there, idle⟩ := done_of_step here taken
    have none : Step.isCall ⟨sys, move, next⟩ a = false := by
      rw [Bool.eq_false_iff, Ne, Step.isCall_iff]
      rintro rfl
      obtain ⟨call, rest, here', -⟩ := step_called taken
      cases here.symm.trans here'
    rw [none]
    exact ⟨Step.errors_eq_zero idle, .all there all⟩

end

section
variable {past rest earlier later : List (Step (System σ κ) (Move σ κ))} {base sys : System σ κ} {limit : Timespan}
  {surroundings : σ} {e : Step (System σ κ) (Move σ κ)} {a : ActivityId} {s : SubscriptionId} {sub : Subscription σ κ}
  {m : Message} {calls : List κ} {made : Nat}

theorem nothing_of_arriving (run : Past step? (System.new limit surroundings) past sys)
    (arriving : (sys.stage? a).all Stage.isArriving = true) : errorsOf past a = 0 ∧ callsOf past a = 0 := by
  induction run with
  | start => exact ⟨rfl, rfl⟩
  | step move run taken ih =>
    obtain ⟨before, error, call⟩ := arriving_of_step taken arriving
    obtain ⟨errors, calls⟩ := ih before
    rw [errorsOf_append, callsOf_append, errors, calls]
    exact ⟨by simp [errorsOf, error], by simp [callsOf, call]⟩

theorem Calling.since (calling : base.Calling a calls made) (goesOn : Past step? base rest sys) :
    errorsOf rest a = 0 ∧ sys.Calling a calls (made + callsOf rest a) := by
  induction goesOn with
  | start => exact ⟨rfl, calling⟩
  | @step rest now next move goesOn taken ih =>
    obtain ⟨errors, goesOn⟩ := ih
    obtain ⟨error, further⟩ := goesOn.step taken
    have one : callsOf [Step.mk now move next] a = (Step.isCall ⟨now, move, next⟩ a).toNat := by
      cases called : Step.isCall ⟨now, move, next⟩ a <;> simp [callsOf, called]
    rw [errorsOf_append, callsOf_append, errors, one, ← Nat.add_assoc]
    exact ⟨by simp [errorsOf, error], further⟩

/-- Until a message is handed over there is nothing to count for it, but its arrival. -/
theorem counts_of_hands (run : Past step? (System.new limit surroundings) past sys)
    (split : past = earlier ++ e :: later) (hands : e.Hands a s m) :
    errorsOf past a = e.errors a + errorsOf later a ∧ callsOf past a = callsOf later a := by
  obtain ⟨upto, -⟩ := run.upto split
  obtain ⟨own, here⟩ := hands.1
  obtain ⟨errors, calls⟩ := nothing_of_arriving upto (a := a) (by rw [here]; rfl)
  have uncalled : e.isCall a = false := by
    rw [Bool.eq_false_iff, Ne, Step.isCall_iff, own]
    simp
  rw [split, errorsOf_append, callsOf_append, errors, calls]
  simp [errorsOf, callsOf, uncalled]

/-- The calls that a listener has for a message are made one after the other, and there is no error. -/
theorem called_of_past (run : Past step? (System.new limit surroundings) past sys)
    (split : past = earlier ++ e :: later) (hands : e.Hands a s m) (found : e.before.subscription? s = some sub)
    (called : sub.listener.calls e.before.surroundings m = .ok calls) :
    errorsOf past a = 0 ∧ sys.Calling a calls (callsOf past a) := by
  obtain ⟨errors, made⟩ := counts_of_hands run split hands
  obtain ⟨⟨own, here⟩, counted, sub', found', calls'⟩ := hands
  obtain rfl : sub = sub' := Option.some.inj (found.symm.trans found')
  simp only [called] at calls'
  have calling : e.after.Calling a calls 0 := .more calls' (Nat.zero_le _)
  obtain ⟨none, goesOn⟩ := calling.since (run.since split)
  have error : e.errors a = 0 := by
    have taken := (run.upto split).2
    rw [own] at taken
    simp [Step.errors, own, errors_of_deliver taken here calls']
  rw [errors, made, error, none]
  exact ⟨rfl, by simpa using goesOn⟩

/-- A message that a listener refuses is one error, and leads to no call. -/
theorem refused_of_past (run : Past step? (System.new limit surroundings) past sys)
    (split : past = earlier ++ e :: later) (hands : e.Hands a s m) (found : e.before.subscription? s = some sub)
    {fault : Fault} (refused : sub.listener.calls e.before.surroundings m = .error fault) :
    errorsOf past a = 1 ∧ callsOf past a = 0 ∧ sys.stage? a = some (.done .finished) := by
  obtain ⟨errors, made⟩ := counts_of_hands run split hands
  obtain ⟨⟨own, -⟩, -, sub', found', calls'⟩ := hands
  obtain rfl : sub = sub' := Option.some.inj (found.symm.trans found')
  simp only [refused] at calls'
  obtain ⟨finished, counted⟩ := calls'
  have error : e.errors a = 1 := by
    simp [Step.errors, own, counted]
  have calling : e.after.Calling a [] 0 := .all finished rfl
  obtain ⟨none, goesOn⟩ := calling.since (run.since split)
  refine ⟨by rw [errors, error, none], ?_, ?_⟩
  · rw [made]
    simpa using goesOn.le
  · exact (run.since split).invariant finished fun _ _ _ here taken => (done_of_step here taken).1

end
end System
end Datagrid
