import Datagrid.Proofs.Subscription.Interruption
import Datagrid.Proofs.Subscription.Progress

/-!
Cancellation: once a token has fired, its calls need no answer any more. A call looks at its token
before it sends anything and whenever it waits for an answer of its own, and returns as soon as it
finds it fired. What it does not look at the token for is the line for a lock: whoever
unsubscribes stays in the line while somebody ahead of it waits for an answer.
-/
namespace Datagrid

variable {σ κ : Type}

namespace Stage

/-- The stages of a call that subscribes. -/
inductive Subscribes (token : Option TokenId) : Stage σ κ → Prop where
  | subscribe (listener : Listener σ κ) : Subscribes token (.subscribe listener token)
  | enter (s : SubscriptionId) : Subscribes token (.enter s token)
  | list (s : SubscriptionId) : Subscribes token (.list s token)
  | addRoute (s : SubscriptionId) (c : ConnectionId) (k : Int64) (m : Message) :
      Subscribes token (.addRoute s (.first token) c k m)
  | awaitRegistration (s : SubscriptionId) (c : ConnectionId) (k : Int64) (r : RequestId) (late : Bool) :
      Subscribes token (.awaitRegistration s (.first token) c k r late)
  | removeRoute (s : SubscriptionId) (k : Int64) (fault : Fault) :
      Subscribes token (.removeRoute s (.first token) k fault)
  | withdraw (s : SubscriptionId) (fault : Fault) : Subscribes token (.withdraw s fault)
  | done (result : Except Fault SubscriptionId) : Subscribes token (.done (.subscribed result))

/-- The stages of a call that unsubscribes. -/
inductive Unsubscribes (s : SubscriptionId) (token : Option TokenId) : Stage σ κ → Prop where
  | lookup : Unsubscribes s token (.lookup s (.unsubscribe token))
  | lock : Unsubscribes s token (.lock s (.unsubscribe token))
  | queue : Unsubscribes s token (.queue s (.unsubscribe token))
  | unlist : Unsubscribes s token (.unlist s token)
  | dropRoute (k : Int64) : Unsubscribes s token (.dropRoute s k (.unsubscribe token))
  | awaitRemoval (r : RequestId) (late : Bool) : Unsubscribes s token (.awaitRemoval s token r late)
  | done (result : Except Fault Bool) : Unsubscribes s token (.done (.unsubscribed result))

/-- The stages of a call that has found its token fired. -/
inductive GivesUp : Stage σ κ → Prop where
  | removeRoute (s : SubscriptionId) (token : Option TokenId) (k : Int64) :
      GivesUp (.removeRoute s (.first token) k .cancelled)
  | withdraw (s : SubscriptionId) : GivesUp (.withdraw s .cancelled)
  | subscribed : GivesUp (.done (.subscribed (.error .cancelled)))
  | unsubscribed : GivesUp (.done (.unsubscribed (.error .cancelled)))

/-- The token that a stage looks at before anything else. -/
def looksAt? : Stage σ κ → Option TokenId
  | subscribe _ token => token
  | awaitRegistration _ purpose _ _ _ _ => purpose.token
  | awaitRemoval _ token _ _ => token
  | _ => none

end Stage

namespace System

/-- Nothing moves: no activity has a turn, and every request is with the transport. -/
structure AtRest (sys : System σ κ) : Prop where
  turns : ∀ a, sys.step? (.proceed a) = none
  sends : ∀ r, sys.step? (.send r) = none

/-- An activity at the lock of a subscription waits for the answer to a request of its own. It has
    not been cancelled, and the time allowed is not over. -/
inductive AwaitsAnswer (sys : System σ κ) (a : ActivityId) (s : SubscriptionId) : Prop where
  | registration {p : Purpose} {c : ConnectionId} {k : Int64} {r : RequestId} :
      sys.stage? a = some (.awaitRegistration s p c k r false) → sys.isFired p.token = false → sys.reply? r = none →
      AwaitsAnswer sys a s
  | removal {token : Option TokenId} {r : RequestId} :
      sys.stage? a = some (.awaitRemoval s token r false) → sys.isFired token = false → sys.reply? r = none →
      AwaitsAnswer sys a s

/-- A call that unsubscribes stands in the line for the lock of the subscription, and whoever has
    the lock waits for an answer. -/
structure HeldUp (sys : System σ κ) (a : ActivityId) (s : SubscriptionId) (token : Option TokenId) : Prop where
  queues : sys.stage? a = some (.queue s (.unsubscribe token))
  behind : ∃ sub holder, sys.subscription? s = some sub ∧ sub.holder = some holder ∧ a ∈ sub.waiting ∧
    sys.AwaitsAnswer holder s

section
variable {sys next : System σ κ} {a : ActivityId} {s : SubscriptionId} {sub : Subscription σ κ}
  {stage : Stage σ κ} {change : Change σ κ} {move : Move σ κ} {token : Option TokenId}

/-! ## The stages of a call -/

/-- What is kept by every turn of an activity, and wherever it drifts, is kept by every step. -/
private theorem stays_of_step {holds : Stage σ κ → Prop} (here : sys.stage? a = some stage)
    (taken : sys.step? move = some next) (turns : ∀ s sub change, Turn sys a s sub stage change → holds change.stage)
    (errands : ∀ change, Errand sys a stage change → holds change.stage)
    (drifts : ∀ later, stage.Drift later → holds later) : ∃ later, next.stage? a = some later ∧ holds later := by
  by_cases own : move = .proceed a
  · subst own
    obtain ⟨stage', change, here', rfl, ⟨s, sub, -, -, turn⟩ | ⟨-, errand⟩⟩ := after_of_proceed taken
    · obtain rfl := Option.some.inj (here.symm.trans here')
      exact ⟨_, stage?_after_self here, turns s sub change turn⟩
    · obtain rfl := Option.some.inj (here.symm.trans here')
      exact ⟨_, stage?_after_self here, errands change errand⟩
  · obtain ⟨later, there, drift⟩ := drift_of_step taken own here
    exact ⟨later, there, drifts later drift⟩

theorem subscribes_of_step (here : ∃ stage, sys.stage? a = some stage ∧ stage.Subscribes token)
    (taken : sys.step? move = some next) : ∃ later, next.stage? a = some later ∧ later.Subscribes token := by
  obtain ⟨stage, here, subscribes⟩ := here
  refine stays_of_step here taken (fun s sub change turn => ?_) (fun change errand => ?_) (fun later drift => ?_)
  · cases turn with
    | learn acquires | tooLate acquires | beginRemoval acquires | skip acquires | dropAgain acquires =>
      cases acquires <;> cases subscribes
    | installAgain ready | failAgain ready => rcases ready with ⟨⟨⟩⟩ <;> cases subscribes
    | removeUnregistered leaves | removeUnsaid leaves | remove leaves => cases leaves <;> cases subscribes
    | _ => cases subscribes <;> constructor
  · cases errand <;> cases subscribes <;> constructor
  · cases drift <;> cases subscribes <;> constructor

theorem unsubscribes_of_step (here : ∃ stage, sys.stage? a = some stage ∧ stage.Unsubscribes s token)
    (taken : sys.step? move = some next) : ∃ later, next.stage? a = some later ∧ later.Unsubscribes s token := by
  obtain ⟨stage, here, unsubscribes⟩ := here
  refine stays_of_step here taken (fun s sub change turn => ?_) (fun change errand => ?_) (fun later drift => ?_)
  · cases turn with
    | learn acquires | tooLate acquires | beginRemoval acquires | skip acquires | dropAgain acquires =>
      cases acquires <;> cases unsubscribes <;> constructor
    | installAgain ready | failAgain ready => rcases ready with ⟨⟨⟩⟩ <;> cases unsubscribes
    | removeUnregistered leaves | removeUnsaid leaves | remove leaves =>
      cases leaves <;> cases unsubscribes <;> constructor
    | _ => cases unsubscribes <;> constructor
  · cases errand <;> cases unsubscribes <;> constructor
  · cases drift <;> cases unsubscribes <;> constructor

/-- Whoever has found its token fired is told so in the end. -/
theorem givesUp_of_step (here : ∃ stage, sys.stage? a = some stage ∧ stage.GivesUp)
    (taken : sys.step? move = some next) : ∃ later, next.stage? a = some later ∧ later.GivesUp := by
  obtain ⟨stage, here, givesUp⟩ := here
  refine stays_of_step here taken (fun s sub change turn => ?_) (fun change errand => ?_) (fun later drift => ?_)
  · cases turn with
    | learn acquires | tooLate acquires | beginRemoval acquires | skip acquires | dropAgain acquires =>
      cases acquires <;> cases givesUp
    | installAgain ready | failAgain ready => rcases ready with ⟨⟨⟩⟩ <;> cases givesUp
    | removeUnregistered leaves | removeUnsaid leaves | remove leaves => cases leaves <;> cases givesUp
    | _ => cases givesUp <;> constructor
  · cases errand <;> cases givesUp
  · cases drift <;> cases givesUp <;> constructor

/-- Whoever looks at its token and finds it fired gives up. -/
theorem givesUp_of_fired (here : sys.stage? a = some stage) (looks : stage.looksAt? = token)
    (fired : sys.isFired token = true) (taken : sys.step? (.proceed a) = some next) :
    ∃ later, next.stage? a = some later ∧ later.GivesUp := by
  subst looks
  have unanswered {r reply} (answered : sys.Answered stage.looksAt? r reply) : False := by
    cases fired.symm.trans answered.1
  have cancelled {r late fault} (interrupted : sys.Interrupted stage.looksAt? r late fault) : fault = .cancelled := by
    rcases interrupted with ⟨-, same⟩ | ⟨unfired, -⟩
    · exact same
    · cases fired.symm.trans unfired
  obtain ⟨stage', change, here', rfl, ⟨s, sub, -, -, turn⟩ | ⟨-, errand⟩⟩ := after_of_proceed taken
  · obtain rfl := Option.some.inj (here.symm.trans here')
    refine ⟨_, stage?_after_self here, ?_⟩
    cases turn with
    | @abandon p _ _ _ _ _ interrupted =>
      obtain rfl := cancelled interrupted
      cases p with
      | first token => exact .removeRoute s token _
      | again => cases fired
    | refuse _ _ _ answered | registerFirst _ _ _ answered | registerAgain _ _ _ answered | answered _ answered =>
      exact (unanswered answered).elim
    | interrupted interrupted =>
      obtain rfl := cancelled interrupted
      exact .unsubscribed
    | learn acquires | tooLate acquires | beginRemoval acquires | skip acquires | dropAgain acquires =>
      cases acquires <;> cases fired
    | installAgain ready | failAgain ready => rcases ready with ⟨⟨⟩⟩ <;> cases fired
    | removeUnregistered leaves | removeUnsaid leaves | remove leaves => cases leaves <;> cases fired
    | _ => cases fired
  · obtain rfl := Option.some.inj (here.symm.trans here')
    refine ⟨_, stage?_after_self here, ?_⟩
    cases errand with
    | unbegun why =>
      rcases why with ⟨-, rfl⟩ | ⟨unfired, -⟩
      · exact .subscribed
      · cases fired.symm.trans unfired
    | create unfired => cases fired.symm.trans unfired
    | _ => cases fired

/-! ## Rest -/

/-- Whoever has a lock while nothing moves waits for an answer. -/
theorem AtRest.awaits_of_holder (rest : sys.AtRest) (sound : sys.Sound) (found : sys.subscription? s = some sub)
    (has : sub.holder = some a) : sys.AwaitsAnswer a s := by
  obtain ⟨stage, here, engaged, -⟩ := (sound.kept s sub found).holder a has
  by_cases patient : stage.isPatient = true
  · have still := rest.turns a
    cases stage <;> simp only [Stage.isPatient, Bool.not_eq_true', reduceCtorEq] at patient
    case awaitRegistration t p c k r late =>
      subst patient
      obtain rfl : t = s := Option.some.inj engaged
      simp only [step?, proceed, here, Stage.subscription?, found, proceedOn] at still
      split at still
      · cases still
      next unfired =>
        split at still
        · split at still <;> cases still
        next silent => exact .registration here (by simpa using unfired) silent
    case awaitRemoval t token r late =>
      subst patient
      obtain rfl : t = s := Option.some.inj engaged
      simp only [step?, proceed, here, Stage.subscription?, found, proceedOn] at still
      split at still
      · cases still
      next unfired =>
        split at still
        · cases still
        next silent => exact .removal here (by simpa using unfired) silent
  · obtain ⟨next, taken⟩ := proceeds_of_holder here engaged found has (by simpa using patient)
    cases taken.symm.trans (rest.turns a)

/-- Whoever is at a lock while nothing moves, and not in the line for it, waits for an answer. -/
theorem AtRest.awaits_of_engaged (rest : sys.AtRest) (sound : sys.Sound) (here : sys.stage? a = some stage)
    (engaged : stage.engages? = some s) (past : ∀ goal, stage ≠ .queue s goal) : sys.AwaitsAnswer a s := by
  obtain ⟨sub, found⟩ := subscription?_of_lt (sound.about a stage s here (Stage.subscription?_of_engages? engaged))
  exact rest.awaits_of_holder sound found ((sound.kept s sub found).has here engaged past).1

/-- Whoever waits for an answer has a token that has not fired. -/
theorem AwaitsAnswer.unfired (awaits : sys.AwaitsAnswer a s) (here : sys.stage? a = some stage) :
    sys.isFired stage.looksAt? = false ∧ (stage.isPatient = true) := by
  cases awaits with
  | registration here' unfired =>
    obtain rfl := Option.some.inj (here'.symm.trans here)
    exact ⟨unfired, rfl⟩
  | removal here' unfired =>
    obtain rfl := Option.some.inj (here'.symm.trans here)
    exact ⟨unfired, rfl⟩

/-- While nothing moves, a call that subscribes has returned if its token has fired. -/
theorem AtRest.subscribed (rest : sys.AtRest) (sound : sys.Sound) (fired : sys.isFired token = true)
    (here : sys.stage? a = some stage) (subscribes : stage.Subscribes token) :
    ∃ result, stage = .done (.subscribed result) := by
  have waits {s} (engaged : stage.engages? = some s) (past : ∀ goal, stage ≠ .queue s goal) :=
    (rest.awaits_of_engaged sound here engaged past).unfired here
  cases subscribes with
  | subscribe listener =>
    have still := rest.turns a
    simp [step?, proceed, here, Stage.subscription?, proceedAlone, fired] at still
  | awaitRegistration =>
    have unfired := (waits rfl (by simp)).1
    cases fired.symm.trans unfired
  | done result => exact ⟨result, rfl⟩
  | _ => cases (waits rfl (by simp)).2

/-- While nothing moves, a call that unsubscribes has returned if its token has fired, unless it is
    held up in the line for the lock. -/
theorem AtRest.unsubscribed (rest : sys.AtRest) (sound : sys.Sound) (fired : sys.isFired token = true)
    (here : sys.stage? a = some stage) (unsubscribes : stage.Unsubscribes s token) :
    sys.HeldUp a s token ∨ ∃ result, stage = .done (.unsubscribed result) := by
  have waits (engaged : stage.engages? = some s) (past : ∀ goal, stage ≠ .queue s goal) :=
    (rest.awaits_of_engaged sound here engaged past).unfired here
  cases unsubscribes with
  | lookup =>
    have still := rest.turns a
    simp [step?, proceed, here, Stage.subscription?, proceedAlone] at still
  | lock =>
    obtain ⟨sub, found⟩ := subscription?_of_lt (sound.about a _ s here rfl)
    obtain ⟨next, taken⟩ := proceeds_of_lock here found
    cases taken.symm.trans (rest.turns a)
  | queue =>
    obtain ⟨sub, found⟩ := subscription?_of_lt (sound.about a _ s here rfl)
    have kept := sound.kept s sub found
    have inLine := kept.engaged a _ here rfl
    cases holder : sub.holder with
    | none => simp [Subscription.line, holder, (kept.free holder).1] at inLine
    | some h =>
      have awaits := rest.awaits_of_holder sound found holder
      rcases (by simpa [Subscription.line, holder] using inLine : a = h ∨ a ∈ sub.waiting) with rfl | behind
      · cases (awaits.unfired here).2
      · exact .inl ⟨here, sub, h, found, holder, behind, awaits⟩
  | awaitRemoval =>
    have unfired := (waits rfl (by simp)).1
    cases fired.symm.trans unfired
  | done result => exact .inr ⟨result, rfl⟩
  | _ => cases (waits rfl (by simp)).2

end

/-! ## Through a run -/

/-- An activity has looked at a token that had fired. -/
def FindsFired (past : List (Step (System σ κ) (Move σ κ))) (a : ActivityId) (t : TokenId) : Prop :=
  ∃ e ∈ past, ∃ stage, e.Turns a stage ∧ stage.looksAt? = some t ∧ e.before.isFired (some t) = true

/-- What has become of the calls with a token. Whoever has looked at the token when it had fired is
    told so, and nobody else has needed an answer since. -/
structure Cancelled (past : List (Step (System σ κ) (Move σ κ))) (sys : System σ κ) (t : TokenId) : Prop where
  /-- Whoever subscribes has returned. -/
  subscribed : ∀ e ∈ past, ∀ a listener, e.Begins a (.subscribe listener (some t)) →
    ∃ result, sys.outcome? a = some (.subscribed result) ∧ (FindsFired past a t → result = .error .cancelled)
  /-- Whoever unsubscribes has returned, or is held up by somebody who waits for an answer. -/
  unsubscribed : ∀ e ∈ past, ∀ a s, e.Begins a (.lookup s (.unsubscribe (some t))) →
    sys.HeldUp a s (some t) ∨
      ∃ result, sys.outcome? a = some (.unsubscribed result) ∧ (FindsFired past a t → result = .error .cancelled)

section
variable {limit : Timespan} {surroundings : σ} {past : List (Step (System σ κ) (Move σ κ))} {sys : System σ κ}
  {e : Step (System σ κ) (Move σ κ)} {a : ActivityId} {s : SubscriptionId} {t : TokenId} {token : Option TokenId}

private theorem givesUp_of_findsFired (run : Past step? (System.new limit surroundings) past sys)
    (finds : FindsFired past a t) :
    ∃ stage, sys.stage? a = some stage ∧ stage.GivesUp := by
  obtain ⟨e, there, stage, ⟨own, here⟩, looks, fired⟩ := finds
  obtain ⟨earlier, later, split⟩ := List.append_of_mem there
  have taken := (run.upto split).2
  rw [own] at taken
  exact (run.since split).invariant (givesUp_of_fired here looks fired taken) fun _ _ _ => givesUp_of_step

/-- Once nothing moves, no call that subscribes waits with a token that has fired, and a call that
    unsubscribes does only while it stands in the line for a lock, behind somebody who waits for an
    answer. All others have returned, and whoever has looked at the token when it had fired has been
    told so. -/
theorem cancelled_at_rest (run : Past step? (System.new limit surroundings) past sys) (rest : sys.AtRest)
    (fired : sys.isFired (some t) = true) : Cancelled past sys t := by
  have sound := sound_of_past run
  constructor
  · intro e there a listener begins
    obtain ⟨earlier, later, split⟩ := List.append_of_mem there
    obtain ⟨stage, here, subscribes⟩ := (run.since split).invariant ⟨_, begins.2, .subscribe listener⟩
      fun _ _ _ => subscribes_of_step
    obtain ⟨result, rfl⟩ := rest.subscribed sound fired here subscribes
    refine ⟨result, outcome?_eq_some.mpr here, fun finds => ?_⟩
    obtain ⟨stage, here', givesUp⟩ := givesUp_of_findsFired run finds
    obtain rfl := Option.some.inj (here.symm.trans here')
    cases givesUp
    rfl
  · intro e there a s begins
    obtain ⟨earlier, later, split⟩ := List.append_of_mem there
    obtain ⟨stage, here, unsubscribes⟩ := (run.since split).invariant ⟨_, begins.2, .lookup⟩
      fun _ _ _ => unsubscribes_of_step
    rcases rest.unsubscribed sound fired here unsubscribes with heldUp | ⟨result, rfl⟩
    · exact .inl heldUp
    · refine .inr ⟨result, outcome?_eq_some.mpr here, fun finds => ?_⟩
      obtain ⟨stage, here', givesUp⟩ := givesUp_of_findsFired run finds
      obtain rfl := Option.some.inj (here.symm.trans here')
      cases givesUp
      rfl

end

/-! ## Calls that are cancelled -/

/-- Whoever is not there has no turn, and what is not there is not sent. -/
theorem atRest_iff {sys : System σ κ} :
    sys.AtRest ↔ (∀ a < sys.activities.length, (sys.step? (.proceed a)).isNone) ∧
      ∀ r < sys.requests.length, (sys.step? (.send r)).isNone := by
  constructor
  · intro rest
    exact ⟨fun a _ => by rw [rest.turns a]; rfl, fun r _ => by rw [rest.sends r]; rfl⟩
  · rintro ⟨turns, sends⟩
    refine ⟨fun a => ?_, fun r => ?_⟩
    · by_cases there : a < sys.activities.length
      · exact Option.isNone_iff_eq_none.mp (turns a there)
      · simp [step?, proceed, stage?, Nat.not_lt.mp there]
    · by_cases there : r < sys.requests.length
      · exact Option.isNone_iff_eq_none.mp (sends r there)
      · simp [step?, advance, Nat.not_lt.mp there]

instance (sys : System σ κ) : Decidable sys.AtRest := decidable_of_iff _ atRest_iff.symm

/-- A run in which something begins after some moves, and others follow. -/
theorem past_of_begun {start mid sys : System σ κ} {earlier later : List (Move σ κ)} (beginning : Beginning σ κ)
    (upto : earlier.foldlM step? start = some mid)
    (since : later.foldlM step? (mid.begin beginning.stage).2 = some sys) :
    ∃ past, Past step? start past sys ∧ ∃ e ∈ past, e.Begins mid.activities.length beginning.stage := by
  obtain ⟨past, run, -⟩ := Past.of_moves upto
  obtain ⟨more, goesOn, -⟩ := Past.of_moves since
  have begun : mid.step? (.begin beginning) = some (mid.begin beginning.stage).2 := rfl
  refine ⟨_, (run.step _ begun).append goesOn, ⟨mid, .begin beginning, _⟩, by simp, ?_, stage?_begin_self _⟩
  exact List.getElem?_eq_none (Nat.le_refl _)

/-- A subscription is registered, and is being registered again on another connection, whose member
    has not answered yet. -/
def unansweredReinstall : List (Move Unit Unit) :=
  [.use (some 0), .begin (.subscribe tally none), .proceed 0, .proceed 0, .proceed 0, .proceed 0, .send 0,
    .answer 0 (.ok tallied), .proceed 0, .use (some 1), .begin (.react (.connected 1)), .proceed 1, .proceed 2,
    .proceed 2, .proceed 2, .send 1]

/-- A call that unsubscribes while a member owes the answer to a new registration has not returned
    though its token has fired and nothing moves. -/
theorem cancelled_removal_stays_in_line : ∃ (past : _) (sys : System Unit Unit),
    Past step? (System.new (.ofSeconds 60) ()) past sys ∧ sys.AtRest ∧ sys.isFired (some 7) = true ∧
      (∃ e ∈ past, e.Begins 3 (.lookup 0 (.unsubscribe (some 7)))) ∧ sys.outcome? 3 = none := by
  have done : (unansweredReinstall.foldlM step? (System.new (.ofSeconds 60) ())).any fun mid =>
      decide (mid.activities.length = 3) &&
        ([.proceed 3, .proceed 3, .cancel 7].foldlM step? (mid.begin (.lookup 0 (.unsubscribe (some 7)))).2).any
          fun sys => decide sys.AtRest && sys.isFired (some 7) && (sys.outcome? 3).isNone := by
    decide +kernel
  simp only [Option.any_eq_true, Bool.and_eq_true, decide_eq_true_eq, Option.isNone_iff_eq_none] at done
  obtain ⟨mid, upto, count, sys, since, ⟨rest, fired⟩, pending⟩ := done
  obtain ⟨past, run, begun⟩ := past_of_begun (.unsubscribe 0 (some 7)) upto since
  exact ⟨past, sys, run, rest, fired, count ▸ begun, pending⟩

/-- At the same time a call that subscribes waits for an answer, and another unsubscribes with its
    token. Once the token has fired, the first is told so, and the other stays in the line. -/
theorem cancelled_subscription_returns : ∃ (past : _) (sys : System Unit Unit),
    Past step? (System.new (.ofSeconds 60) ()) past sys ∧ sys.AtRest ∧ sys.isFired (some 7) = true ∧
      (∃ e ∈ past, e.Begins 3 (.subscribe tally (some 7))) ∧
      sys.outcome? 3 = some (.subscribed (.error .cancelled)) ∧ sys.outcome? 4 = none ∧ Cancelled past sys 7 := by
  have done : (unansweredReinstall.foldlM step? (System.new (.ofSeconds 60) ())).any fun mid =>
      decide (mid.activities.length = 3) &&
        ([.proceed 3, .proceed 3, .proceed 3, .proceed 3, .send 2, .begin (.unsubscribe 0 (some 7)), .proceed 4,
          .proceed 4, .cancel 7, .proceed 3, .proceed 3, .proceed 3].foldlM step?
            (mid.begin (.subscribe tally (some 7))).2).any
          fun sys => decide sys.AtRest && sys.isFired (some 7) && wasCancelled sys 3 && (sys.outcome? 4).isNone := by
    decide +kernel
  simp only [Option.any_eq_true, Bool.and_eq_true, decide_eq_true_eq, Option.isNone_iff_eq_none] at done
  obtain ⟨mid, upto, count, sys, since, ⟨⟨rest, fired⟩, told⟩, pending⟩ := done
  obtain ⟨past, run, begun⟩ := past_of_begun (.subscribe tally (some 7)) upto since
  exact ⟨past, sys, run, rest, fired, count ▸ begun, outcome?_of_wasCancelled told, pending,
    cancelled_at_rest run rest fired⟩

end System
end Datagrid
