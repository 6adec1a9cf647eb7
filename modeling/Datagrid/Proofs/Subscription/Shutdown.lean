import Datagrid.Proofs.Subscription.Removal

/-!
Shutdown: it removes every subscription on its list, one after the other, and those that others
remove are gone when their turn comes. Where nothing new is entered in the table meanwhile, the
table is empty in the end. A route can be left only where another call has just taken its
subscription out of the table, and is about to drop it.
-/
namespace Datagrid

variable {σ κ : Type}

section
variable {s : SubscriptionId} {stage later : Stage σ κ}

theorem Stage.Drift.of_comes (drift : stage.Drift later) (comes : later.Comes s) : stage = later := by
  cases comes <;> cases drift <;> rfl

theorem Stage.Begins.of_comes (begins : stage.Begins) (comes : stage.Comes s) :
    ∃ token, stage = .lookup s (.unsubscribe token) := by
  cases begins with
  | asked beginning =>
    cases beginning with
    | unsubscribe t token =>
      cases comes
      exact ⟨token, rfl⟩
    | _ => cases comes
  | _ => cases comes
end

/-- A step in which a new subscription enters the table. -/
def Step.Lists (e : Step (System σ κ) (Move σ κ)) : Prop := ∃ a s token, e.Turns a (.list s token)

namespace System

/-- An activity has come to remove a subscription, and is not told anything yet. -/
def Seeks (sys : System σ κ) (a : ActivityId) (s : SubscriptionId) : Prop :=
  ∃ stage, sys.stage? a = some stage ∧ stage.Comes s ∧ ∀ outcome, stage ≠ .done outcome

/-- An activity shuts down, and all that is in the table is on its list. -/
inductive Closes (sys : System σ κ) (a : ActivityId) : Prop where
  | begins : sys.stage? a = some .shutdown → Closes sys a
  | goesOn (rest : List SubscriptionId) : sys.stage? a = some (.remove rest none) → sys.table ⊆ rest → Closes sys a
  /-- The first is removed by another activity. -/
  | waits (s : SubscriptionId) (rest : List SubscriptionId) (child : ActivityId) :
      sys.stage? a = some (.remove (s :: rest) (some child)) → sys.table ⊆ s :: rest →
      (s ∈ sys.table → sys.Seeks child s) → Closes sys a
  | returned : sys.stage? a = some (.done .finished) → sys.table = [] → Closes sys a

section
variable {sys next : System σ κ} {a b : ActivityId} {s : SubscriptionId} {sub : Subscription σ κ}
  {stage : Stage σ κ} {change : Change σ κ} {move : Move σ κ}

/-! ## One step -/

/-- Only a new subscription enters the table. -/
theorem table_subset_of_step (taken : sys.step? move = some next) (unlisted : ¬ Step.Lists ⟨sys, move, next⟩) :
    next.table ⊆ sys.table := by
  by_cases turns : ∃ a, move = .proceed a
  · obtain ⟨a, rfl⟩ := turns
    obtain ⟨stage, change, here, rfl, ⟨t, sub, -, -, turn⟩ | ⟨-, errand⟩⟩ := after_of_proceed taken
    · show change.table ⊆ sys.table
      rcases turn.table_eq with same | ⟨⟨token, rfl⟩, -⟩ | removed
      · exact same ▸ List.Subset.refl _
      · exact absurd ⟨a, t, token, rfl, here⟩ unlisted
      · exact removed ▸ List.filter_subset_self _
    · show change.table ⊆ sys.table
      rcases errand.quiet with quiet | ⟨listener, token, request, -, rfl, -⟩
      · exact quiet.table ▸ List.Subset.refl _
      · exact List.Subset.refl _
  · exact (drifts_of_step taken fun a same => turns ⟨a, same⟩).table ▸ List.Subset.refl _

/-- A subscription that an activity has taken out of the table stays out of it. -/
theorem Leaving.absent (leaving : sys.Leaving a s) (sound : sys.Sound) : s ∉ sys.table := by
  rcases leaving with ⟨sub, k, token, now, here, found, -⟩ | ⟨⟨sub, found, removed⟩, -⟩
  · obtain ⟨-, -, absent, -⟩ := (sound.kept s now found).has here rfl (by simp)
    exact absent
  · exact ((sound.kept s sub found).blank removed).1

/-- Whoever has come to remove a subscription goes on for as long as that is in the table. -/
theorem Seeks.step (seeks : sys.Seeks a s) (sound : sys.Sound) (taken : sys.step? move = some next)
    (listed : s ∈ next.table) : next.Seeks a s := by
  obtain ⟨stage, here, comes, busy⟩ := seeks
  by_cases own : move = .proceed a
  · subst own
    -- whoever were told that there is nothing to remove would have found it removed
    have goesOn {sub : Subscription σ κ} {change : Change σ κ} (later : change.stage.Comes s)
        (found : sys.subscription? s = some sub) (same : next = sys.after a change)
        (vain : (∃ outcome, change.stage = .done outcome) → sub.state = .removed) : next.Seeks a s := by
      refine ⟨change.stage, same ▸ stage?_after_self here, later, ?_⟩
      intro outcome done
      obtain ⟨now, found', removed⟩ := removed_of_step sound taken ⟨sub, found, vain ⟨outcome, done⟩⟩
      exact (((sound.step taken).kept s now found').blank removed).1 listed
    obtain ⟨stage', change, here', same, kind⟩ := after_of_proceed taken
    obtain rfl := Option.some.inj (here.symm.trans here')
    rcases kind with ⟨t, sub, about, found, turn⟩ | ⟨-, errand⟩
    · cases comes with
      | lock token =>
        obtain rfl : s = t := Option.some.inj about
        obtain ⟨later, -, vain⟩ := turn.comes_on (.inl rfl)
        exact goesOn later found same vain
      | queue token =>
        obtain rfl : s = t := Option.some.inj about
        obtain ⟨later, -, vain⟩ := turn.comes_on (.inr rfl)
        exact goesOn later found same vain
      | unlist token =>
        obtain rfl : s = t := Option.some.inj about
        have leaving : next.Leaving a s := by
          rcases parts_of_step sound here found taken with ⟨-, ⟨-, parts⟩ | ⟨-, departs⟩⟩
          · exact .inl ⟨sub, parts⟩
          · exact .inr departs
        exact absurd listed (leaving.absent (sound.step taken))
      | lookup | inVain => cases about
    · cases comes with
      | lookup token =>
        cases errand with
        | find => exact ⟨_, same ▸ stage?_after_self here, .lock token, by simp⟩
        | miss _ absent => exact absurd (by simpa [same] using listed) absent
      | _ => cases errand
  · obtain ⟨later, there, drift⟩ := drift_of_step taken own here
    refine ⟨later, there, drift.comes comes, ?_⟩
    rintro outcome rfl
    cases drift
    exact busy outcome rfl

/-- While an activity shuts down and nothing is entered in the table, all that is in the table
    stays on its list. -/
theorem Closes.step (closes : sys.Closes a) (sound : sys.Sound) (taken : sys.step? move = some next)
    (unlisted : ¬ Step.Lists ⟨sys, move, next⟩) : next.Closes a := by
  have fewer := table_subset_of_step taken unlisted
  by_cases own : move = .proceed a
  · subst own
    obtain ⟨stage, change, here, rfl, kind⟩ := after_of_proceed taken
    have self : (sys.after a change).stage? a = some change.stage := stage?_after_self here
    -- whoever shuts down is at no subscription of its own
    have errand (alone : stage.subscription? = none) : Errand sys a stage change := by
      rcases kind with ⟨t, sub, about, -⟩ | ⟨-, errand⟩
      · cases alone.symm.trans about
      · exact errand
    cases closes with
    | begins here' =>
      obtain rfl := Option.some.inj (here.symm.trans here')
      cases errand rfl
      exact .goesOn sys.table self (List.Subset.refl _)
    | goesOn rest here' left =>
      obtain rfl := Option.some.inj (here.symm.trans here')
      cases errand rfl with
      | removedAll => exact .returned self (List.eq_nil_of_subset_nil left)
      | removeNext s rest =>
        refine .waits s rest _ self left ?_
        intro listed
        exact ⟨_, (stage?_of_waiting here).2, .lookup none, by simp⟩
    | waits s rest child here' left seeks =>
      obtain rfl := Option.some.inj (here.symm.trans here')
      cases errand rfl with
      | removedOne _ _ done =>
        have absent : s ∉ sys.table := by
          intro listed
          obtain ⟨stage, there, -, busy⟩ := seeks listed
          obtain ⟨outcome, reached⟩ := Option.isSome_iff_exists.mp done
          exact busy outcome (Option.some.inj (there.symm.trans (outcome?_eq_some.mp reached)))
        refine .goesOn rest self ?_
        intro t listed
        rcases List.mem_cons.mp (left listed) with rfl | there
        · exact absurd listed absent
        · exact there
    | returned here' =>
      obtain rfl := Option.some.inj (here.symm.trans here')
      cases errand rfl
  · cases closes with
    | begins here =>
      obtain ⟨later, there, drift⟩ := drift_of_step taken own here
      cases drift
      exact .begins there
    | goesOn rest here left =>
      obtain ⟨later, there, drift⟩ := drift_of_step taken own here
      cases drift
      exact .goesOn rest there (List.Subset.trans fewer left)
    | waits s rest child here left seeks =>
      obtain ⟨later, there, drift⟩ := drift_of_step taken own here
      cases drift
      exact .waits s rest child there (List.Subset.trans fewer left) fun listed =>
        (seeks (fewer listed)).step sound taken listed
    | returned here empty =>
      obtain ⟨later, there, drift⟩ := drift_of_step taken own here
      cases drift
      exact .returned there (List.eq_nil_of_subset_nil (empty ▸ fewer))

/-- Whoever has come for a subscription in a turn had come for it before. -/
private theorem seeks_before_turn (turn : Turn sys a b sub stage change) (comes : change.stage.Comes s)
    (busy : ∀ outcome, change.stage ≠ .done outcome) : stage.Comes s ∧ ∀ outcome, stage ≠ .done outcome := by
  generalize same : change.stage = later at comes busy
  cases comes with
  | inVain => exact absurd rfl (busy _)
  | lookup | lock => cases turn <;> cases same
  | queue token =>
    cases turn with
    | wait =>
      cases same
      exact ⟨.lock token, by simp⟩
    | _ => cases same
  | unlist token =>
    cases turn with
    | beginRemoval acquires =>
      cases same
      cases acquires with
      | free => exact ⟨.lock token, by simp⟩
      | given => exact ⟨.queue token, by simp⟩
    | _ => cases same

private theorem seeks_before_errand (errand : Errand sys a stage change) (comes : change.stage.Comes s)
    (busy : ∀ outcome, change.stage ≠ .done outcome) : stage.Comes s ∧ ∀ outcome, stage ≠ .done outcome := by
  generalize same : change.stage = later at comes busy
  cases comes with
  | inVain => exact absurd rfl (busy _)
  | lookup | queue | unlist => cases errand <;> cases same
  | lock token =>
    cases errand with
    | find =>
      cases same
      exact ⟨.lookup token, by simp⟩
    | _ => cases same

/-- Whoever has come for a subscription has begun with that. -/
theorem seeks_of_step (taken : sys.step? move = some next) (seeks : next.Seeks a s) :
    sys.Seeks a s ∨ ∃ token, Step.Begins ⟨sys, move, next⟩ a (.lookup s (.unsubscribe token)) := by
  obtain ⟨later, there, comes, busy⟩ := seeks
  rcases stage?_of_step taken there with ⟨stage, change, -, here, -, rfl, kind⟩ | ⟨-, stage, here, drift⟩ |
    ⟨none, begins⟩
  · rcases kind with ⟨t, sub, -, -, turn⟩ | ⟨-, errand⟩
    · exact .inl ⟨stage, here, seeks_before_turn turn comes busy⟩
    · exact .inl ⟨stage, here, seeks_before_errand errand comes busy⟩
  · obtain rfl := drift.of_comes comes
    exact .inl ⟨stage, here, comes, busy⟩
  · obtain ⟨token, rfl⟩ := begins.of_comes comes
    exact .inr ⟨token, none, there⟩
end

/-! ## Through a run -/

section
variable {limit : Timespan} {surroundings : σ} {past more earlier later : List (Step (System σ κ) (Move σ κ))}
  {base sys : System σ κ} {e removal : Step (System σ κ) (Move σ κ)} {a : ActivityId} {s : SubscriptionId}
  {sub : Subscription σ κ} {c : ConnectionId} {id : Uuid} {k : Int64}

theorem calls_of_seeks (run : Past step? (System.new limit surroundings) past sys) (seeks : sys.Seeks a s) :
    Calls past a s := by
  induction run with
  | start =>
    obtain ⟨stage, here, -⟩ := seeks
    simp [System.new, stage?] at here
  | step move run taken ih =>
    rcases seeks_of_step taken seeks with before | ⟨token, begins⟩
    · obtain ⟨e, there, began⟩ := ih before
      exact ⟨e, List.mem_append_left _ there, began⟩
    · exact ⟨_, List.mem_concat_self, token, begins⟩

/-- Whoever takes a subscription out of the table to remove it has come for that. -/
theorem calls_of_removes (run : Past step? (System.new limit surroundings) past sys)
    (split : past = earlier ++ removal :: later) (removes : removal.Removes a s) : Calls past a s := by
  obtain ⟨token, -, here⟩ := removes
  obtain ⟨e, there, began⟩ := calls_of_seeks (run.upto split).1 ⟨_, here, .unlist token, by simp⟩
  exact ⟨e, split ▸ List.mem_append_left _ there, began⟩

/-- Where nothing is entered in the table since a shutdown has begun, it has all of the table on its list. -/
theorem closes_since (goesOn : Past step? base more sys) (sound : base.Sound) (closes : base.Closes a)
    (unlisted : ∀ e ∈ more, ¬ e.Lists) : sys.Closes a := by
  induction goesOn with
  | start => exact closes
  | step move goesOn taken ih =>
    obtain ⟨before, last⟩ := forall_mem_concat.mp unlisted
    exact (ih before).step (sound_since goesOn sound) taken last

/-- Once it has returned, the table is empty. -/
theorem Closes.empty {outcome : Outcome} (closes : sys.Closes a) (done : sys.outcome? a = some outcome) :
    sys.table = [] := by
  have here := outcome?_eq_some.mp done
  cases closes with
  | begins here' => cases here.symm.trans here'
  | goesOn rest here' => cases here.symm.trans here'
  | waits s rest child here' => cases here.symm.trans here'
  | returned _ empty => exact empty

/-- Whoever has taken a subscription out of the table has removed it, or is about to drop its route. -/
theorem removed_of_removes (run : Past step? (System.new limit surroundings) past sys)
    (split : past = earlier ++ removal :: later) (removes : removal.Removes a s)
    (dropped : ∀ k token, sys.stage? a ≠ some (.dropRoute s k (.unsubscribe token))) :
    ∃ sub, sys.subscription? s = some sub ∧ sub.state = .removed := by
  rcases leaving_of_past run split removes with ⟨sub, k, token, now, here, -⟩ | ⟨removed, -⟩
  · exact absurd here (dropped k token)
  · exact removed

/-- The registration of a subscription that is removed was asked to be taken off once. -/
theorem asked_once (run : Past step? (System.new limit surroundings) past sys)
    (split : past = earlier ++ removal :: later) (removes : removal.Removes a s)
    (found : removal.before.subscription? s = some sub) (registered : sub.registration = ⟨some c, some id, some k⟩)
    (encodes : ∀ k, ∃ m message, sub.listener.removal id = .ok m ∧ m.setCorrelation k = .ok message)
    (dropped : ∀ k token, sys.stage? a ≠ some (.dropRoute s k (.unsubscribe token))) :
    ∃ first e rest m message, past = first ++ e :: rest ∧ sub.listener.removal id = .ok m ∧
      m.setCorrelation e.before.nextCorrelation = .ok message ∧ e.Sends a ⟨c, message, .spawned⟩ ∧
      ∀ e' ∈ first ++ rest, ∀ b request, Calls past b s → ¬ e'.Sends b request := by
  obtain ⟨e, there, m, message, asks, set, sends⟩ :=
    sends_of_dropped run split removes found registered encodes dropped
  have calls := calls_of_removes run split removes
  obtain ⟨first, rest, split'⟩ : ∃ first rest, past = first ++ e :: rest :=
    List.append_of_mem (split ▸ List.mem_append_right _ (List.mem_cons_of_mem _ there))
  refine ⟨first, e, rest, m, message, split', asks, set, sends, ?_⟩
  intro e' other b request calls' sends'
  rcases List.mem_append.mp other with before | after
  · obtain ⟨first', between, rfl⟩ := List.append_of_mem before
    have split'' : past = first' ++ e' :: (between ++ e :: rest) := by simp [split']
    exact single_of_sends run split'' calls' sends' (by simp) calls sends
  · exact single_of_sends run split' calls sends after calls' sends'

/-- All routes are accounted for. -/
structure Accounted (past : List (Step (System σ κ) (Move σ κ))) (sys : System σ κ) : Prop where
  /-- No subscription has two. -/
  single : (sys.routes.map (·.2.subscription)).Nodup
  /-- Where nobody has the lock of a subscription, it counts, and its route is the one on record. -/
  recorded : ∀ k s c, (k, ⟨s, c⟩) ∈ sys.routes → ∃ sub, sys.subscription? s = some sub ∧
    (sub.holder = none → s ∈ sys.table ∧ sub.state ≠ .removed ∧ ∃ id, sub.registration = ⟨some c, some id, some k⟩)
  /-- While nobody is at a lock, there are no more of them than subscriptions that count. -/
  few : (∀ a stage, sys.stage? a = some stage → stage.engages? = none) → sys.routes.length ≤ sys.table.length
  /-- Once a shutdown has returned, the table is empty, unless something was entered in it meanwhile.
      What routes are left others are about to drop, who have just taken their subscriptions out of
      the table; they drop them in their next turns, and nothing holds them up. -/
  closed : ∀ earlier begins later a outcome, past = earlier ++ begins :: later → begins.Begins a .shutdown →
    (∀ e ∈ later, ¬ e.Lists) → sys.outcome? a = some outcome →
    sys.table = [] ∧ ∀ k s c, (k, ⟨s, c⟩) ∈ sys.routes →
      ∃ b token next, sys.stage? b = some (.dropRoute s k (.unsubscribe token)) ∧
        sys.step? (.proceed b) = some next ∧ next.routes = sys.routesBut k
  /-- Where nobody is about to, no route is left, and all that was to be removed is removed. -/
  cleared : ∀ earlier begins later a outcome, past = earlier ++ begins :: later → begins.Begins a .shutdown →
    (∀ e ∈ later, ¬ e.Lists) → sys.outcome? a = some outcome →
    (∀ b s k token, sys.stage? b ≠ some (.dropRoute s k (.unsubscribe token))) →
    sys.routes = [] ∧ ∀ removal ∈ past, ∀ b s, removal.Removes b s →
      ∃ sub, sys.subscription? s = some sub ∧ sub.state = .removed
  /-- Whoever has taken a subscription out of the table has asked the member to take the registration
      off that was on record, once it has dropped the route; no other that has come to remove it asks. -/
  asked : ∀ earlier removal later a s sub c id k, past = earlier ++ removal :: later → removal.Removes a s →
    removal.before.subscription? s = some sub → sub.registration = ⟨some c, some id, some k⟩ →
    (∀ k, ∃ m message, sub.listener.removal id = .ok m ∧ m.setCorrelation k = .ok message) →
    (∀ k token, sys.stage? a ≠ some (.dropRoute s k (.unsubscribe token))) →
    ∃ first e rest m message, past = first ++ e :: rest ∧ sub.listener.removal id = .ok m ∧
      m.setCorrelation e.before.nextCorrelation = .ok message ∧ e.Sends a ⟨c, message, .spawned⟩ ∧
      ∀ e' ∈ first ++ rest, ∀ b request, Calls past b s → ¬ e'.Sends b request

/-- Once a shutdown has returned, the table is empty, and the routes that are left are about to be dropped. -/
private theorem closed_of_done {begins : Step (System σ κ) (Move σ κ)} {outcome : Outcome}
    (run : Past step? (System.new limit surroundings) past sys) (split : past = earlier ++ begins :: later)
    (began : begins.Begins a .shutdown) (unlisted : ∀ e ∈ later, ¬ e.Lists) (done : sys.outcome? a = some outcome) :
    sys.table = [] ∧ ∀ k s c, (k, ⟨s, c⟩) ∈ sys.routes →
      ∃ b token next, sys.stage? b = some (.dropRoute s k (.unsubscribe token)) ∧
        sys.step? (.proceed b) = some next ∧ next.routes = sys.routesBut k := by
  obtain ⟨upto, taken⟩ := run.upto split
  have sound := (sound_of_past upto).step taken
  have empty := (closes_since (run.since split) sound (.begins began.2) unlisted).empty done
  refine ⟨empty, ?_⟩
  intro k s c there
  obtain ⟨b, token, here⟩ := dropping_of_unlisted (sound_of_past run) (minded_of_past run) there (by simp [empty])
  obtain ⟨next, taken, dropped⟩ := step_dropRoute (sound_of_past run) here
  exact ⟨b, token, next, here, taken, dropped⟩

/-- All routes are accounted for, at any time. -/
theorem routes_accounted_for (run : Past step? (System.new limit surroundings) past sys) : Accounted past sys := by
  have sound := sound_of_past run
  have minded := minded_of_past run
  have agreed := agreed_of_past run
  have keys := keys_of_past run
  refine ⟨nodup_subscriptions sound minded keys, ?_, length_routes_le sound minded agreed keys, ?_, ?_, ?_⟩
  · intro k s c there
    obtain ⟨sub, found⟩ := subscription?_of_lt (sound.routed _ there)
    refine ⟨sub, found, ?_⟩
    intro free
    obtain ⟨listed, live, registered⟩ := registered_of_free sound minded agreed there found free
    exact ⟨listed, by simp [live], registered⟩
  · intro earlier begins later a outcome split began unlisted done
    exact closed_of_done run split began unlisted done
  · intro earlier begins later a outcome split began unlisted done nobody
    obtain ⟨-, dropping⟩ := closed_of_done run split began unlisted done
    refine ⟨?_, ?_⟩
    · refine List.eq_nil_iff_forall_not_mem.mpr ?_
      rintro ⟨k, ⟨s, c⟩⟩ there
      obtain ⟨b, token, -, here, -⟩ := dropping k s c there
      exact nobody b s k token here
    · intro removal there b s removes
      obtain ⟨first, rest, split'⟩ := List.append_of_mem there
      exact removed_of_removes run split' removes (nobody b s)
  · intro earlier removal later a s sub c id k split removes found registered encodes dropped
    exact asked_once run split removes found registered encodes dropped
end

/-- Two subscriptions are registered, and a shutdown removes them; the answer of the second takes too long. -/
def closing : List (Move Unit Unit) :=
  [.use (some 0), .begin (.subscribe tally none), .proceed 0, .proceed 0, .proceed 0, .proceed 0, .send 0,
    .answer 0 (.ok tallied), .proceed 0, .begin (.subscribe tally none), .proceed 1, .proceed 1, .proceed 1,
    .proceed 1, .send 1, .answer 1 (.ok tallied), .proceed 1, .begin .shutdown, .proceed 2, .proceed 2,
    .proceed 3, .proceed 3, .proceed 3, .proceed 3, .send 2, .answer 2 (.ok tallied), .proceed 3, .proceed 2,
    .proceed 2, .proceed 4, .proceed 4, .proceed 4, .proceed 4, .send 3, .expire 4, .proceed 4, .proceed 2,
    .proceed 2]

theorem shutdown_leaves_no_routes : ∃ (past : _) (sys : System Unit Unit),
    Past step? (System.new (.ofSeconds 60) ()) past sys ∧ sys.isDone 2 = true ∧ sys.table = [] ∧ sys.routes = [] ∧
      sys.requests.map (·.connection) = [0, 0, 0, 0] ∧ Accounted past sys := by
  have done : (closing.foldlM step? (System.new (.ofSeconds 60) ())).any fun sys =>
      sys.isDone 2 && sys.table == [] && sys.routes == [] && sys.requests.map (·.connection) == [0, 0, 0, 0] := by
    decide +kernel
  rw [Option.any_eq_true] at done
  obtain ⟨sys, done, facts⟩ := done
  simp only [Bool.and_eq_true, beq_iff_eq] at facts
  obtain ⟨⟨⟨returned, table⟩, routes⟩, sent⟩ := facts
  obtain ⟨past, run, -⟩ := Past.of_moves done
  exact ⟨past, sys, run, returned, table, routes, sent, routes_accounted_for run⟩

/-- Two subscriptions are registered. The one is removed by a call whose token has fired, which does
    not wait until its request is sent; whoever removes the other has come to its lock. -/
def removalsUnderWay : List (Move Unit Unit) :=
  [.use (some 0), .begin (.subscribe tally none), .proceed 0, .proceed 0, .proceed 0, .proceed 0, .send 0,
    .answer 0 (.ok tallied), .proceed 0, .begin (.subscribe tally none), .proceed 1, .proceed 1, .proceed 1,
    .proceed 1, .send 1, .answer 1 (.ok tallied), .proceed 1, .cancel 7, .begin (.unsubscribe 0 (some 7)),
    .proceed 2, .proceed 2, .proceed 2, .proceed 2, .proceed 2, .begin (.unsubscribe 1 none), .proceed 3, .proceed 3]

/-- Whether an activity is about to take a subscription out of the table. -/
def isAtTable (sys : System Unit Unit) (a : ActivityId) (s : SubscriptionId) : Bool :=
  match sys.stage? a with
  | some (.unlist t none) => t == s
  | _ => false

/-- Whether a shutdown has returned. -/
def hasFinished (sys : System Unit Unit) (a : ActivityId) : Bool :=
  match sys.stage? a with
  | some (.done .finished) => true
  | _ => false

/-- Whether no activity is about to enter a subscription in the table. -/
def isFull (sys : System Unit Unit) : Bool :=
  sys.activities.all fun stage =>
    match stage with
    | .list _ _ => false
    | _ => true

theorem stage?_of_isAtTable {sys : System Unit Unit} {a : ActivityId} {s : SubscriptionId}
    (there : isAtTable sys a s = true) : sys.stage? a = some (.unlist s none) := by
  unfold isAtTable at there
  split at there
  next t here =>
    obtain rfl := eq_of_beq there
    exact here
  · cases there

theorem outcome?_of_hasFinished {sys : System Unit Unit} {a : ActivityId} (finished : hasFinished sys a = true) :
    sys.outcome? a = some .finished := by
  unfold hasFinished at finished
  split at finished
  next here => exact outcome?_eq_some.mpr here
  · cases finished

theorem not_lists_of_isFull {e : Step (System Unit Unit) (Move Unit Unit)} (full : isFull e.before = true) :
    ¬ e.Lists := by
  rintro ⟨a, s, token, -, here⟩
  cases List.all_eq_true.mp full _ (List.mem_of_getElem? here)

/-- A shutdown returns as soon as the table is empty. The route of a subscription that another call
    has just taken out of the table is left, and the member is not asked to take its registration off
    yet; nor is the request sent whose call did not wait for that. -/
theorem shutdown_outruns_a_removal : ∃ (earlier later : _) (removal begins : _) (sys : System Unit Unit),
    Past step? (System.new (.ofSeconds 60) ()) (earlier ++ removal :: begins :: later) sys ∧
      removal.Removes 3 1 ∧ (removal.before.subscription? 1).map (·.registration) = some ⟨some 0, some ⟨0, 1⟩, some 2⟩ ∧
      begins.Begins 4 .shutdown ∧ (∀ e ∈ later, ¬ e.Lists) ∧ sys.outcome? 4 = some .finished ∧ sys.table = [] ∧
      sys.routes = [(2, ⟨1, 0⟩)] ∧ sys.requests.length = removal.before.requests.length ∧
      (sys.step? (.send 2)).isSome := by
  let checked := fun (sys : System Unit Unit) move => if isFull sys then sys.step? move else none
  have done : (removalsUnderWay.foldlM step? (System.new (.ofSeconds 60) ())).any fun before =>
      isAtTable before 3 1 && (before.subscription? 1).map (·.registration) == some ⟨some 0, some ⟨0, 1⟩, some 2⟩ &&
        (before.step? (.proceed 3)).any fun mid => decide (mid.activities.length = 4) &&
          ([.proceed 4, .proceed 4].foldlM checked (mid.begin .shutdown).2).any fun sys =>
            hasFinished sys 4 && sys.table == [] && sys.routes == [(2, ⟨1, 0⟩)] &&
              decide (sys.requests.length = before.requests.length) && (sys.step? (.send 2)).isSome := by
    decide +kernel
  simp only [Option.any_eq_true, Bool.and_eq_true, beq_iff_eq, decide_eq_true_eq] at done
  obtain ⟨before, upto, ⟨here, registered⟩, mid, taken, count, sys, since, ⟨⟨⟨finished, table⟩, routes⟩, asked⟩,
    unsent⟩ := done
  obtain ⟨earlier, run, -⟩ := Past.of_moves upto
  obtain ⟨later, goesOn, -⟩ := Past.of_moves since
  obtain ⟨goesOn, full⟩ := Past.of_checked goesOn
  have begun : mid.step? (.begin .shutdown) = some (mid.begin .shutdown).2 := rfl
  have whole := ((run.step _ taken).step _ begun).append goesOn
  have begins : Step.Begins ⟨mid, .begin .shutdown, (mid.begin .shutdown).2⟩ 4 .shutdown := by
    rw [← count]
    exact ⟨List.getElem?_eq_none (Nat.le_refl _), stage?_begin_self _⟩
  exact ⟨earlier, later, ⟨before, .proceed 3, mid⟩, _, sys, by simpa using whole,
    ⟨none, rfl, stage?_of_isAtTable here⟩, registered, begins, fun e there => not_lists_of_isFull (full e there),
    outcome?_of_hasFinished finished, table, routes, asked, unsent⟩

end System
end Datagrid
