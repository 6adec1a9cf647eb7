import Datagrid.Proofs.Subscription.Soundness

/-!
Progress: nobody waits for a lock in vain. Whoever has the lock of a subscription needs only
turns of its own to be done with it, and for an answer that does not come only the end of
the time allowed. So everybody in the line gets the lock, one after the other, and comes to
an end, whatever the transport and the member do or fail to do.
-/
namespace Datagrid

variable {σ κ : Type}

/-- How far an activity that has a lock is from giving it up, at most. -/
def Stage.remaining : Stage σ κ → Nat
  | enter _ _ => 9
  | list _ _ | queue _ _ => 8
  | unlist _ _ => 7
  | dropRoute _ _ _ => 6
  | addRoute _ _ _ _ _ => 5
  | awaitRegistration _ _ _ _ _ late | awaitRemoval _ _ _ late => if late then 3 else 4
  | removeRoute _ _ _ _ => 2
  | withdraw _ _ => 1
  | _ => 0

/-- A stage that waits for a response, and is not overdue yet. -/
def Stage.isPatient : Stage σ κ → Bool
  | awaitRegistration _ _ _ _ _ late | awaitRemoval _ _ _ late => !late
  | _ => false

namespace System

/-- Turns and the end of the time allowed lead from one system to another. -/
inductive Advances : System σ κ → System σ κ → Prop where
  | refl (sys : System σ κ) : Advances sys sys
  | step {sys next later : System σ κ} {a : ActivityId} {move : Move σ κ} :
      move = .proceed a ∨ move = .expire a → sys.step? move = some next → Advances next later → Advances sys later

section
variable {sys next later : System σ κ} {a b : ActivityId} {s : SubscriptionId} {sub now : Subscription σ κ}
  {stage : Stage σ κ} {change : Change σ κ}

theorem Advances.trans (first : Advances sys next) (second : Advances next later) : Advances sys later := by
  induction first with
  | refl => exact second
  | step kind taken _ ih => exact .step kind taken (ih second)

theorem Advances.sound (advances : Advances sys later) (sound : sys.Sound) : later.Sound := by
  induction advances with
  | refl => exact sound
  | step _ taken _ ih => exact ih (sound.step taken)

/-- Whatever leads on is a run. -/
theorem Advances.past (advances : Advances sys later) : ∃ more, Past step? sys more later := by
  have from' {start : System σ κ} {past} (run : Past step? start past sys) :
      ∃ more, Past step? start more later := by
    induction advances generalizing past with
    | refl => exact ⟨past, run⟩
    | step _ taken _ ih => exact ih (run.step _ taken)
  exact from' .start

/-! ## One turn of whoever has a lock -/

private theorem remaining_of_acquires {goal : Goal} (acquires : Acquires a s sub goal stage)
    (engaged : stage.engages? = some s) : 8 ≤ stage.remaining := by
  cases acquires with
  | free => cases engaged
  | given => exact Nat.le_refl _

private theorem remaining_of_renews {c : ConnectionId} {renewed : Subscription σ κ} {routes : List (Int64 × Route)}
    (ready : Renews sys a s sub c stage renewed routes) (engaged : stage.engages? = some s) : 6 ≤ stage.remaining := by
  cases ready with
  | unrouted acquires =>
    have far := remaining_of_acquires acquires engaged
    omega
  | dropped => exact Nat.le_refl _

private theorem remaining_of_leaves {token : Option TokenId} {table : List SubscriptionId}
    {routes : List (Int64 × Route)} (leaves : Leaves sys s sub token stage table routes) : 6 ≤ stage.remaining := by
  cases leaves <;> simp [Stage.remaining]

/-- Every turn at a lock brings an activity nearer to its end. -/
theorem Turn.remaining_lt (turn : Turn sys a s sub stage change) (engaged : stage.engages? = some s) :
    change.stage.remaining < stage.remaining := by
  cases turn with
  | addRoute => simp [Stage.remaining]
  | @abandon _ _ _ _ late | refuse _ _ late | registerFirst _ _ late | registerAgain _ _ late =>
    cases late <;> simp [Stage.remaining]
  | wait => cases engaged
  | learn acquires | tooLate acquires | beginRemoval acquires | skip acquires | dropAgain acquires =>
    exact Nat.lt_of_lt_of_le (by simp [Stage.remaining]) (remaining_of_acquires acquires engaged)
  | installAgain ready | failAgain ready =>
    exact Nat.lt_of_lt_of_le (by simp [Stage.remaining]) (remaining_of_renews ready engaged)
  | removeUnregistered leaves | removeUnsaid leaves | remove leaves =>
    exact Nat.lt_of_lt_of_le (by simp [Stage.remaining]) (remaining_of_leaves leaves)
  | @interrupted _ _ late | answered late => cases late <;> simp [Stage.remaining]
  | missed | deliver | undeliverable => cases engaged
  | _ => simp [Stage.remaining]

/-- Whoever has come for a lock and is at none after the turn is done. -/
theorem Turn.done_of_left (turn : Turn sys a s sub stage change)
    (came : stage.engages? = some s ∨ ∃ goal, stage = .lock s goal) (leaves : change.stage.engages? = none) :
    ∃ outcome, change.stage = .done outcome := by
  cases turn with
  | missed | deliver | undeliverable => simp [Stage.engages?] at came
  | registerFirst | registerAgain | undoAgain | withdraw | learn | tooLate | skip | failAgain | removeUnregistered
  | removeUnsaid | learnDropped | interrupted | answered => exact ⟨_, rfl⟩
  | _ => cases leaves

/-- Whoever has a lock can go on, unless it waits for a response and is not overdue yet. -/
theorem proceeds_of_holder (here : sys.stage? a = some stage) (engaged : stage.engages? = some s)
    (found : sys.subscription? s = some sub) (has : sub.holder = some a) (impatient : stage.isPatient = false) :
    ∃ next, sys.proceed a = some next := by
  have about := Stage.subscription?_of_engages? engaged
  have step : sys.proceed a = sys.proceedOn a s sub stage := by simp only [proceed, here, about, found]
  rw [step]
  cases stage <;> simp only [Stage.engages?, Option.some.injEq, reduceCtorEq] at engaged
  case list =>
    simp only [proceedOn]
    split <;> exact ⟨_, rfl⟩
  case awaitRegistration p c k r late =>
    obtain rfl : late = true := by simpa [Stage.isPatient] using impatient
    simp only [proceedOn]
    split
    · exact ⟨_, rfl⟩
    · split
      · split <;> exact ⟨_, rfl⟩
      · exact ⟨_, if_pos trivial⟩
  case queue goal => exact ⟨_, if_pos has⟩
  case awaitRemoval token r late =>
    obtain rfl : late = true := by simpa [Stage.isPatient] using impatient
    simp only [proceedOn]
    split
    · exact ⟨_, rfl⟩
    · split
      · exact ⟨_, rfl⟩
      · exact ⟨_, if_pos trivial⟩
  all_goals exact ⟨_, rfl⟩

/-- The lock of a subscription is still with an activity, and with the same in line behind it. -/
def Holding (sys : System σ κ) (a : ActivityId) (s : SubscriptionId) (waiting : List ActivityId) : Prop :=
  ∃ sub, sys.subscription? s = some sub ∧ sub.holder = some a ∧ sub.waiting = waiting

/-- An activity is done, and the lock of a subscription has gone to the next in line. -/
def HandedOver (sys : System σ κ) (a : ActivityId) (s : SubscriptionId) (waiting : List ActivityId) : Prop :=
  (∃ outcome, sys.stage? a = some (.done outcome)) ∧
    ∃ sub, sys.subscription? s = some sub ∧ sub.holder = waiting.head? ∧ sub.waiting = waiting.drop 1

/-- All but one activity are where they were. -/
def OthersStay (sys next : System σ κ) (a : ActivityId) : Prop :=
  ∀ b stage, b ≠ a → sys.stage? b = some stage → next.stage? b = some stage

/-- The end of the time allowed makes whoever waits for a response impatient. -/
private theorem expires_of_patient (here : sys.stage? a = some stage) (patient : stage.isPatient = true) :
    ∃ later, sys.step? (.expire a) = some (sys.become a later) ∧ later.remaining < stage.remaining ∧
      stage.Drift later := by
  have step {later : Stage σ κ} (overdue : stage.overdue = some later) :
      sys.step? (.expire a) = some (sys.become a later) := by
    simp [step?, shift, here, overdue]
  cases stage <;> simp only [Stage.isPatient, Bool.not_eq_true', reduceCtorEq] at patient
  case awaitRegistration =>
    subst patient
    exact ⟨_, step rfl, by simp [Stage.remaining], .lateRegistration ..⟩
  case awaitRemoval =>
    subst patient
    exact ⟨_, step rfl, by simp [Stage.remaining], .lateRemoval ..⟩

/-- Whoever has a lock comes nearer to its end, or has come to it. -/
private theorem step_of_holding {waiting : List ActivityId} (sound : sys.Sound) (holding : sys.Holding a s waiting)
    (here : sys.stage? a = some stage) :
    ∃ move next later, (move = .proceed a ∨ move = .expire a) ∧ sys.step? move = some next ∧
      next.stage? a = some later ∧ later.remaining < stage.remaining ∧ sys.OthersStay next a ∧
      (next.Holding a s waiting ∨ next.HandedOver a s waiting) := by
  obtain ⟨sub, found, has, rfl⟩ := holding
  have kept := sound.kept s sub found
  obtain ⟨stage', here', engaged, -⟩ := kept.holder a has
  obtain rfl := Option.some.inj (here.symm.trans here')
  by_cases patient : stage.isPatient = true
  · obtain ⟨later, taken, nearer, -⟩ := expires_of_patient here patient
    refine ⟨_, _, later, .inr rfl, taken, ?_, nearer, ?_, .inl ⟨sub, found, has, rfl⟩⟩
    · simp [stage?, become, lt_of_stage? here]
    · intro b stage' other there
      simpa [stage?, become, List.getElem?_set_ne (Ne.symm other)] using there
  · obtain ⟨next, taken⟩ := proceeds_of_holder here engaged found has (by simpa using patient)
    obtain ⟨stage', change, here', rfl, ⟨t, sub', about, found', turn⟩ | ⟨alone, -⟩⟩ := after_of_proceed taken
    · obtain rfl := Option.some.inj (here.symm.trans here')
      obtain rfl : s = t := Option.some.inj ((Stage.subscription?_of_engages? engaged).symm.trans about)
      obtain rfl := Option.some.inj (found.symm.trans found')
      have self : (sys.after a change).stage? a = some change.stage := stage?_after_self here
      refine ⟨_, _, change.stage, .inl rfl, taken, self, turn.remaining_lt engaged,
        fun b stage' other there => stage?_after_of_some other there, ?_⟩
      obtain ⟨now, put, handles⟩ := turn.handles kept found here
      have there : (sys.after a change).subscription? s = some now := subscription?_put put found
      cases handles with
      | keeps _ still waiting => exact .inl ⟨now, there, still, waiting⟩
      | releases _ next waiting leaves =>
        obtain ⟨outcome, done⟩ := turn.done_of_left (.inl engaged) leaves
        exact .inr ⟨⟨outcome, done ▸ self⟩, now, there, next, waiting⟩
      | waits _ none | passes none => simp [engaged] at none
    · obtain rfl := Option.some.inj (here.symm.trans here')
      rw [Stage.subscription?_of_engages? engaged] at alone
      cases alone

/-- Whoever has a lock comes to its end, and the next in line has the lock then. -/
theorem hands_over {waiting : List ActivityId} (sound : sys.Sound) (holding : sys.Holding a s waiting) :
    ∃ later, Advances sys later ∧ sys.OthersStay later a ∧ later.HandedOver a s waiting := by
  have ⟨sub, found, has, _⟩ := holding
  obtain ⟨stage, here, -⟩ := (sound.kept s sub found).holder a has
  clear found has
  generalize bound : stage.remaining = n
  induction n using Nat.strongRecOn generalizing sys stage with
  | ind n ih =>
    obtain ⟨move, next, later, kind, taken, there, nearer, stay, still | handed⟩ := step_of_holding sound holding here
    · obtain ⟨last, advances, stay', handed⟩ :=
        ih later.remaining (bound ▸ nearer) (sound.step taken) still later there rfl
      exact ⟨last, .step kind taken advances, fun b stage' other here' => stay' b stage' other (stay b stage' other here'),
        handed⟩
    · exact ⟨next, .step kind taken (.refl _), stay, handed⟩

/-- Whoever waits for a lock gets it, and comes to its end. -/
theorem served_of_waiting {ahead behind : List ActivityId} {holder : ActivityId} (sound : sys.Sound)
    (holding : sys.Holding holder s (ahead ++ a :: behind)) (here : sys.stage? a = some stage) :
    ∃ later outcome, Advances sys later ∧ later.stage? a = some (.done outcome) := by
  induction ahead generalizing sys holder with
  | nil =>
    obtain ⟨next, advances, stay, -, sub, found, has, waiting⟩ := hands_over sound holding
    obtain ⟨later, advances', -, ⟨outcome, done⟩, -⟩ := hands_over (advances.sound sound) ⟨sub, found, has, waiting⟩
    exact ⟨later, outcome, advances.trans advances', done⟩
  | cons first ahead ih =>
    obtain ⟨next, advances, stay, -, sub, found, has, waiting⟩ := hands_over sound holding
    have other : a ≠ holder := by
      rintro rfl
      obtain ⟨sub, found, has, waits⟩ := holding
      refine (sound.kept s sub found).unique has ?_
      rw [waits]
      simp
    obtain ⟨later, outcome, advances', done⟩ :=
      ih (advances.sound sound) ⟨sub, found, has, waiting⟩ (stay a stage other here)
    exact ⟨later, outcome, advances.trans advances', done⟩

/-- Whoever is at a lock comes to its end. -/
theorem served_of_engaged (sound : sys.Sound) (here : sys.stage? a = some stage) (engaged : stage.engages? = some s) :
    ∃ later outcome, Advances sys later ∧ later.stage? a = some (.done outcome) := by
  obtain ⟨sub, found⟩ := subscription?_of_lt (sound.about a stage s here (Stage.subscription?_of_engages? engaged))
  have kept := sound.kept s sub found
  have inLine := kept.engaged a stage here engaged
  simp only [Subscription.line, List.mem_append, Option.mem_toList] at inLine
  rcases inLine with has | waits
  · obtain ⟨later, advances, -, ⟨outcome, done⟩, -⟩ := hands_over sound ⟨sub, found, has, rfl⟩
    exact ⟨later, outcome, advances, done⟩
  · cases holder : sub.holder with
    | none => simp [(kept.free holder).1] at waits
    | some h =>
      obtain ⟨ahead, behind, split⟩ := List.append_of_mem waits
      exact served_of_waiting sound ⟨sub, found, holder, split⟩ here

/-- Whoever comes for a lock that is there gets it, or waits for it. -/
theorem proceeds_of_lock {goal : Goal} (here : sys.stage? a = some (.lock s goal))
    (found : sys.subscription? s = some sub) : ∃ next, sys.proceed a = some next := by
  have step : sys.proceed a = sys.proceedOn a s sub (.lock s goal) := by
    simp only [proceed, here, Stage.subscription?, found]
  rw [step]
  simp only [proceedOn]
  split <;> exact ⟨_, rfl⟩

private theorem served_of_lock {goal : Goal} (sound : sys.Sound) (here : sys.stage? a = some (.lock s goal)) :
    ∃ later outcome, Advances sys later ∧ later.stage? a = some (.done outcome) := by
  obtain ⟨sub, found⟩ := subscription?_of_lt (sound.about a _ s here rfl)
  obtain ⟨next, taken⟩ := proceeds_of_lock here found
  have step : sys.step? (.proceed a) = some next := taken
  obtain ⟨stage, change, here', rfl, ⟨t, sub', about, found', turn⟩ | ⟨alone, -⟩⟩ := after_of_proceed taken
  · obtain rfl := Option.some.inj (here.symm.trans here')
    obtain rfl : s = t := Option.some.inj about
    obtain rfl := Option.some.inj (found.symm.trans found')
    have self : (sys.after a change).stage? a = some change.stage := stage?_after_self here
    cases later : change.stage.engages? with
    | none =>
      obtain ⟨outcome, done⟩ := turn.done_of_left (.inr ⟨goal, rfl⟩) later
      exact ⟨_, outcome, .step (.inl rfl) step (.refl _), done ▸ self⟩
    | some t =>
      obtain ⟨later, outcome, advances, done⟩ := served_of_engaged (sound.step step) self later
      exact ⟨later, outcome, .step (.inl rfl) step advances, done⟩
  · obtain rfl := Option.some.inj (here.symm.trans here')
    cases alone

/-- Whoever comes for a lock comes to its end. -/
theorem served_of_lookup {goal : Goal} (sound : sys.Sound)
    (here : sys.stage? a = some (.lookup s goal) ∨ sys.stage? a = some (.lock s goal)) :
    ∃ later outcome, Advances sys later ∧ later.stage? a = some (.done outcome) := by
  rcases here with here | here
  · by_cases listed : s ∈ sys.table
    · have taken : sys.step? (.proceed a) = some (sys.become a (.lock s goal)) := by
        simp [step?, proceed, here, Stage.subscription?, proceedAlone, listed]
      have there : (sys.become a (.lock s goal)).stage? a = some (.lock s goal) := by
        simp [stage?, become, lt_of_stage? here]
      obtain ⟨later, outcome, advances, done⟩ := served_of_lock (sound.step taken) there
      exact ⟨later, outcome, .step (.inl rfl) taken advances, done⟩
    · have taken : sys.step? (.proceed a) = some (sys.finish a goal.missing) := by
        simp [step?, proceed, here, Stage.subscription?, proceedAlone, listed]
      refine ⟨_, goal.missing, .step (.inl rfl) taken (.refl _), ?_⟩
      simp [stage?, finish, become, lt_of_stage? here]
  · exact served_of_lock sound here

end
end System
end Datagrid
