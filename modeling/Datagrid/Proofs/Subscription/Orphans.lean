import Datagrid.Proofs.Subscription.Accounts
import Datagrid.Proofs.Subscription.Language
import Datagrid.Proofs.Subscription.Reconnection

/-!
Orphans: registrations that the member holds and no active subscription has on record.
In a quiet world these are the forgotten ones, and there are no others.
-/
namespace Datagrid

section
variable {σ κ : Type} {sys next : System σ κ} {a : ActivityId} {s : SubscriptionId} {sub : Subscription σ κ}
  {c : ConnectionId} {k : Int64} {fault : Fault}

/-- Whoever undoes the making of a registration has just given it up, on another connection
    than the former one is on, or undid it before. -/
theorem System.undoing_of_step {move : Move σ κ} (sound : sys.Sound) (aimed : sys.Aimed)
    (taken : sys.step? move = some next) (there : next.stage? a = some (.removeRoute s .again k fault))
    (found : next.subscription? s = some sub) (connected : sub.registration.connection = some c) :
    (move = .proceed a ∧ ∃ former r late,
        sys.stage? a = some (.awaitRegistration s .again former k r late) ∧ former ≠ c) ∨
      (sys.stage? a = some (.removeRoute s .again k fault) ∧
        ∃ old, sys.subscription? s = some old ∧ old.registration.connection = some c) := by
  rcases stage?_of_step taken there with
    ⟨stage, change, rfl, here, rfl, same, kind⟩ | ⟨other, stage, before, drift⟩ | ⟨-, begins⟩
  · left
    refine ⟨rfl, ?_⟩
    rcases kind with ⟨t, old, -, found', turn⟩ | ⟨-, errand⟩
    · have still (put : change.subscriptions = sys.subscriptions) : sys.subscription? s = some sub := by
        simpa [subscription?, put] using found
      cases turn with
      | abandon former k' interrupted =>
        cases same
        exact ⟨former, _, _, here, (aimed a _ s sub former c here rfl rfl (still rfl) connected).symm⟩
      | refuse former k' late answered =>
        cases same
        exact ⟨former, _, _, here, (aimed a _ s sub former c here rfl rfl (still rfl) connected).symm⟩
      | _ => cases same
    · rcases errand.quiet with quiet | ⟨_, _, _, rfl, rfl, -⟩
      · have leaves := quiet.leaves
        simp [← same, Stage.engages?] at leaves
      · cases same
  · right
    cases drift with
    | same =>
      obtain ⟨old, found', same⟩ := registration_of_step sound taken other before rfl (by simp) found
      exact ⟨before, old, found', same ▸ connected⟩
  · have leaves := begins.engages?
    simp [Stage.engages?] at leaves

end

namespace World

variable {σ κ : Type} {language : Message → Order} {limit : Timespan} {surroundings : σ} {capacity : Nat}
  {past : List (Step (World σ κ) (Act σ κ))} {w : World σ κ}

/-! ## Quiet worlds -/

section
variable {r : RequestId} {s : SubscriptionId} {c : ConnectionId} {id : Uuid} {sub : Subscription σ κ}

theorem Quiet.not_awaits (quiet : w.Quiet) : ¬ w.system.Awaits r := by
  rintro ⟨a, stage, here, waits⟩
  have rests := quiet.rests a stage here
  cases stage <;> simp [Stage.awaits?, Stage.rests] at waits rests

theorem Quiet.not_removes (quiet : w.Quiet) (attended : System.Attended language w.replies w.system) :
    ¬ w.Removes language r c id := by
  rintro ⟨m, phase, there, -, unreplied⟩
  have answered := quiet.answered r (List.getElem?_eq_some_iff.mp there).1
  obtain ⟨reply, replied⟩ := Option.isSome_iff_exists.mp answered
  simp [attended.replied r reply replied] at unreplied

theorem Quiet.not_hears (quiet : w.Quiet) : ¬ w.system.Hears c s := by
  rintro (@⟨a, feed, child, here, told⟩ | here | here | here)
  · have rests := quiet.rests a _ here
    simp only [Stage.rests, Bool.and_eq_true, List.isEmpty_iff, Bool.not_eq_true'] at rests
    simp [rests] at told
  · cases quiet.rests _ _ here
  · cases quiet.rests _ _ here
  · cases quiet.rests _ _ here

/-- Nobody has a lock in a quiet world. -/
theorem Quiet.settled (quiet : w.Quiet) (sound : w.system.Sound) (found : w.system.subscription? s = some sub) :
    sub.Settled (s ∈ w.system.table) := by
  have kept := sound.kept s sub found
  cases holder : sub.holder with
  | none => exact (kept.free holder).2
  | some a =>
    obtain ⟨stage, here, engaged, -⟩ := kept.holder a holder
    have rests := quiet.rests a stage here
    cases stage <;> simp [Stage.engages?, Stage.rests] at engaged rests

/-- In a quiet world, subscriptions have their registrations on the open connection. -/
theorem Quiet.recorded_iff (quiet : w.Quiet) (sound : w.system.Sound) (alert : w.Alert) (live : w.live = some c) :
    w.Recorded id ↔ ∃ s, w.system.Records s c id := by
  constructor
  · rintro ⟨s, -, sub, found, active, registered⟩
    refine ⟨s, sub, found, ?_, registered⟩
    cases quiet.settled sound found with
    | @active former _ k _ _ _ registration =>
      by_cases here : former = c
      · simp [registration, here]
      · have strays : w.system.Strays w.replies c s :=
          .inl ⟨sub, former, k, found, by simp [registration], by simp [registration], here⟩
        rcases alert.reminded c live s strays with waits | hears
        · simp [quiet.reported] at waits
        · exact absurd hears quiet.not_hears
    | failed failed => simp [failed] at active
    | removed removed => simp [removed] at active
  · rintro ⟨s, sub, found, connected, registered⟩
    cases quiet.settled sound found with
    | active active listed => exact ⟨s, listed, sub, found, active, registered⟩
    | failed _ _ _ none => simp [none, Registration.none] at connected
    | removed _ _ none => simp [none, Registration.none] at connected

end

/-! ## What is forgotten -/

/-- An activity gives up waiting for a registration on a connection in the place of another. -/
def GivesUp (e : Step (World σ κ) (Act σ κ)) (a : ActivityId) (c : ConnectionId) : Prop :=
  e.move = .own (.proceed a) ∧
    ∃ s k r late, e.before.system.stage? a = some (.awaitRegistration s .again c k r late)

/-- Whoever undoes the making of a registration has given it up, on another connection than
    the former one is on. -/
private theorem undoing_of_past (run : Past (step? language) (start limit surroundings capacity) past w)
    (fluent : Fluent language past) {a : ActivityId} {s : SubscriptionId} {k : Int64} {fault : Fault}
    {sub : Subscription σ κ} {c : ConnectionId} (here : w.system.stage? a = some (.removeRoute s .again k fault))
    (found : w.system.subscription? s = some sub) (connected : sub.registration.connection = some c) :
    ∃ e ∈ past, ∃ former ≠ c, GivesUp e a former := by
  induction run generalizing sub with
  | start => simp [start, System.begin, System.new, System.subscription?] at found
  | @step past now next act run taken ih =>
    have sound := (attended_of_past run fluent.before).sound
    have aimed := aimed_of_past run fluent.before
    have before {sub : Subscription σ κ} (here : now.system.stage? a = some (.removeRoute s .again k fault))
        (found : now.system.subscription? s = some sub) (connected : sub.registration.connection = some c) :
        ∃ e ∈ past ++ [⟨now, act, next⟩], ∃ former ≠ c, GivesUp e a former := by
      obtain ⟨e, there, gives⟩ := ih fluent.before here found connected
      exact ⟨e, List.mem_append_left _ there, gives⟩
    have moves {move : Move σ κ} (moved : now.system.step? move = some next.system)
        (own : move = .proceed a → act = .own (.proceed a)) :
        ∃ e ∈ past ++ [⟨now, act, next⟩], ∃ former ≠ c, GivesUp e a former := by
      rcases System.undoing_of_step sound aimed moved here found connected with
        ⟨turn, former, r, late, waited, apart⟩ | ⟨there, old, found, connected⟩
      · exact ⟨_, List.mem_concat_self, former, apart, own turn, s, k, r, late, waited⟩
      · exact before there found connected
    cases happens_of_step taken with
    | own _ moved =>
      refine moves moved ?_
      rintro rfl
      rfl
    | use moved => exact moves moved (by simp)
    | publish _ _ moved => exact moves moved (by simp)
    | deliver _ moved => exact moves moved (by simp)
    | _ => exact before here found connected

/-! ## What the member holds -/

/-- What the member holds on the open connection is accounted for. -/
structure HeldExactly (past : List (Step (World σ κ) (Act σ κ))) (w : World σ κ) (c : ConnectionId) : Prop where
  /-- It is on the record of an active subscription, or forgotten. -/
  accounted : ∀ id, id ∈ w.held ↔ w.Recorded id ∨ ∃ e ∈ past, Forgets e c id
  apart : ∀ id, w.Recorded id → ∀ e ∈ past, ¬ Forgets e c id
  /-- The member and the subscriptions agree exactly if nothing has been forgotten. -/
  agrees : (∀ id, id ∈ w.held ↔ w.Recorded id) ↔ ∀ id, ∀ e ∈ past, ¬ Forgets e c id
  /-- What is forgotten was to be replaced on another connection, in vain. -/
  elsewhere : ∀ earlier e later id, past = earlier ++ e :: later → Forgets e c id →
    ∃ a, e.move = .own (.proceed a) ∧ ∃ e' ∈ earlier, ∃ former ≠ c, GivesUp e' a former

/-- Once nothing is under way, the member holds what the active subscriptions have on record
    and what has been forgotten, and nothing else. -/
theorem held_exactly {c : ConnectionId} (run : Past (step? language) (start limit surroundings capacity) past w)
    (fluent : Fluent language past) (quiet : w.Quiet) (live : w.live = some c) : HeldExactly past w c := by
  have attended := attended_of_past run fluent
  have accounts := accounts_of_past run fluent
  have alert := alert_of_past run fluent
  have recorded (id : Uuid) : w.Recorded id ↔ ∃ s, w.system.Records s c id :=
    quiet.recorded_iff attended.sound alert live
  have held (id) : id ∈ w.held ↔ w.Recorded id ∨ ∃ e ∈ past, Forgets e c id := by
    rw [accounts.held c live id, recorded]
    constructor
    · rintro ⟨k, keeps⟩
      cases k with
      | subscription s => exact .inl ⟨s, keeps⟩
      | response r => exact absurd keeps.1 quiet.not_awaits
      | removal r => exact absurd keeps (quiet.not_removes attended)
      | nobody => exact .inr keeps
    · rintro (⟨s, records⟩ | forgotten)
      · exact ⟨.subscription s, records⟩
      · exact ⟨.nobody, forgotten⟩
  have apart (id) (on : w.Recorded id) (e) (there : e ∈ past) : ¬ Forgets e c id := by
    intro forgets
    obtain ⟨s, records⟩ := (recorded id).mp on
    have same := (accounts.single c c id (.subscription s) .nobody records ⟨e, there, forgets⟩).2
    cases same
  refine ⟨held, apart, ?_, ?_⟩
  · constructor
    · intro agree id e there forgets
      have on := (agree id).mp ((held id).mpr (.inr ⟨e, there, forgets⟩))
      exact apart id on e there forgets
    · intro none id
      rw [held]
      refine or_iff_left ?_
      rintro ⟨e, there, forgets⟩
      exact none id e there forgets
  · rintro earlier e later id split ⟨a, s, k, fault, sub, turn, here, found, connected, -⟩
    have fluent' : Fluent language earlier := by
      intro e' there
      refine fluent e' ?_
      rw [split]
      exact List.mem_append_left _ there
    exact ⟨a, turn, undoing_of_past (run.upto split).1 fluent' here found connected⟩

/-! ## Two runs -/

/-- A subscription to all entries of a map. -/
def orders : MapSubscription Unit where
  request := ⟨"orders", none, none, true, 1, false⟩
  handlers := []
  keyType := .primitive .text
  valueType := .primitive .text

/-- A response that brings a registration. -/
def granting (n : UInt64) : Except Fault Message := .ok (EntryListener.encodeResponse .all ⟨0, n⟩)

/-- A world with nothing in it but the listener. -/
def idle : World Surroundings (EntryCall Unit) := start (.ofSeconds 60) ⟨.closed .standard, .empty⟩ 16

/-- A subscription is made on the first connection. -/
def timely : List (Act Surroundings (EntryCall Unit)) :=
  [.connect, .use, .publish, .own (.proceed 0), .own (.proceed 1), .own (.proceed 1), .own (.proceed 0),
    .own (.begin (.subscribe orders.listener none)), .own (.proceed 2), .own (.proceed 2), .own (.proceed 2),
    .own (.proceed 2), .own (.send 0), .accept 0 (granting 1), .deliver 0, .own (.proceed 2)]

/-- Whoever subscribes in a run subscribes to a map. -/
private theorem fluent_of_moves {acts : List (Act Surroundings (EntryCall Unit))}
    {past : List (Step (World Surroundings (EntryCall Unit)) (Act Surroundings (EntryCall Unit)))}
    (same : past.map Step.move = acts)
    (maps : ∀ act ∈ acts, ∀ listener token, act = .own (.begin (.subscribe listener token)) → listener = orders.listener) :
    Fluent mapOrder past := by
  intro e there listener token begins
  have member : e.move ∈ acts := same ▸ List.mem_map_of_mem there
  rw [maps e.move member listener token begins]
  exact orders.speaks

theorem timely_registration_is_held : ∃ past w, Past (step? mapOrder) idle past w ∧ Fluent mapOrder past ∧ w.Quiet ∧
    w.live = some 0 ∧ w.held = [⟨0, 1⟩] ∧ w.Recorded ⟨0, 1⟩ ∧ HeldExactly past w 0 := by
  have done : (timely.foldlM (step? mapOrder) idle).any fun w =>
      w.Quiet ∧ w.live = some 0 ∧ w.held = [⟨0, 1⟩] ∧ w.Recorded ⟨0, 1⟩ := by
    decide +kernel
  rw [Option.any_eq_true] at done
  obtain ⟨w, done, facts⟩ := done
  obtain ⟨quiet, live, held, recorded⟩ := of_decide_eq_true facts
  obtain ⟨past, run, moves⟩ := Past.of_moves done
  have fluent : Fluent mapOrder past := fluent_of_moves moves (by simp [timely, eq_comm])
  exact ⟨past, w, run, fluent, quiet, live, held, recorded, held_exactly run fluent quiet live⟩

/-- A subscription is made on the second connection before the listener hears of the first one. -/
def lateNews : List (Act Surroundings (EntryCall Unit)) :=
  [.connect, .use, .disconnect, .publish, .publish, .connect, .use, .publish,
    .own (.begin (.subscribe orders.listener none)), .own (.proceed 1), .own (.proceed 1), .own (.proceed 1),
    .own (.proceed 1), .own (.send 0), .accept 0 (granting 1), .deliver 0, .own (.proceed 1),
    .own (.proceed 0), .own (.proceed 2), .own (.proceed 3), .own (.proceed 3), .own (.proceed 3), .own (.send 1),
    .refuse 1 (.other "connection closed"), .deliver 1, .own (.proceed 3), .own (.proceed 3), .own (.proceed 2),
    .own (.proceed 0), .own (.proceed 0), .own (.proceed 4), .own (.proceed 0), .own (.proceed 0), .own (.proceed 5),
    .own (.proceed 6), .own (.proceed 6), .own (.send 2), .accept 2 (granting 2), .deliver 2,
    .own (.proceed 6), .own (.proceed 5), .own (.proceed 0)]

theorem late_news_orphans_a_registration : ∃ past w, Past (step? mapOrder) idle past w ∧ Fluent mapOrder past ∧
    w.Quiet ∧ w.live = some 1 ∧ ¬ ∀ id, id ∈ w.held ↔ w.Recorded id := by
  have done : (lateNews.foldlM (step? mapOrder) idle).any fun w =>
      w.Quiet ∧ w.live = some 1 ∧ ⟨0, 1⟩ ∈ w.held ∧ ¬ w.Recorded ⟨0, 1⟩ := by
    decide +kernel
  rw [Option.any_eq_true] at done
  obtain ⟨w, done, facts⟩ := done
  obtain ⟨quiet, live, held, unrecorded⟩ := of_decide_eq_true facts
  obtain ⟨past, run, moves⟩ := Past.of_moves done
  have fluent : Fluent mapOrder past := fluent_of_moves moves (by simp [lateNews, eq_comm])
  exact ⟨past, w, run, fluent, quiet, live, fun agree => unrecorded ((agree _).mp held)⟩

end World
end Datagrid
