import Datagrid.Proofs.Subscription.Lifecycle
import Datagrid.Proofs.Subscription.Reinstalls

/-!
Replay: the request of a subscription is kept as its listener has given it, and what goes out for each of its
registrations repeats that request under a correlation id of its own, on the connection that the registration is
made on. No two requests of any kind have the same correlation id.
-/
namespace Datagrid

variable {σ κ : Type}

/-- The subscription that an activity at a stage registers again, and on which connection, once it has asked for
    the lock. -/
def Stage.renews? : Stage σ κ → Option (SubscriptionId × ConnectionId)
  | queue s (.reinstall c) | dropRoute s _ (.reinstall c) | addRoute s .again c _ _
  | awaitRegistration s .again c _ _ _ => some (s, c)
  | _ => none

theorem Stage.Drift.renews? {stage later : Stage σ κ} (drift : stage.Drift later) :
    later.renews? = stage.renews? := by
  cases drift with
  | lateRegistration _ purpose => cases purpose <;> rfl
  | _ => rfl

/-- A message with which a listener asks to have a registration taken off. -/
def Listener.Removes (listener : Listener σ κ) (message : Message) : Prop :=
  ∃ id m k, listener.removal id = .ok m ∧ m.setCorrelation k = .ok message

namespace Step

/-- A step from which on an activity makes a registration on a connection: for the first time on the one for new
    requests, and again on the one that it was sent for. -/
def Aims (e : Step (System σ κ) (Move σ κ)) (a : ActivityId) (s : SubscriptionId) (c : ConnectionId) : Purpose → Prop
  | .first token => e.Turns a (.list s token) ∧ e.before.current = some c
  | .again => e.Turns a (.lock s (.reinstall c))

end Step

namespace System

/-- Some subscription has a listener. -/
def Has (sys : System σ κ) (listener : Listener σ κ) : Prop :=
  ∃ s sub, sys.subscription? s = some sub ∧ sub.listener = listener

/-- All requests have a correlation id, and no two have the same. -/
def Labelled (sys : System σ κ) : Prop :=
  ∃ ids : List Int64, ids.Nodup ∧ sys.requests.map (·.message.correlation) = ids.map .ok

/-- What goes out for the registrations of subscriptions repeats the request of each. -/
structure Replays (past : List (Step (System σ κ) (Move σ κ))) (sys : System σ κ) : Prop where
  /-- The request of a subscription is the one that its listener gave when it was created. -/
  given : ∀ e ∈ past, ∀ a s listener, e.Creates a s listener →
    ∃ sub, sys.subscription? s = some sub ∧ listener.request = .ok sub.request
  /-- No step changes it. -/
  retained : ∀ e ∈ past, ∀ s sub, e.before.subscription? s = some sub →
    ∃ now, e.after.subscription? s = some now ∧ now.request = sub.request
  /-- Whoever makes the route for a registration sends one request, which repeats it, on the connection of that
      registration. -/
  sent : ∀ e ∈ past, ∀ a s p c k r, e.Requests a s p c k r →
    ∃ sub request, sys.subscription? s = some sub ∧ sys.requests[r]? = some request ∧ request.connection = c ∧
      request.message.Repeats sub.request k ∧ e.Sends a ⟨c, request.message, .spawned⟩
  /-- So all that is sent for the same subscription is the same, but for the correlation ids. -/
  alike : ∀ e ∈ past, ∀ e' ∈ past, ∀ a a' s p p' c c' k k' r r', e.Requests a s p c k r → e'.Requests a' s p' c' k' r' →
    ∃ request request', sys.requests[r]? = some request ∧ sys.requests[r']? = some request' ∧
      request'.message.Repeats request.message k'
  /-- The connection is the one that the registration was to be made on. -/
  aimed : ∀ earlier e later a s p c k r, past = earlier ++ e :: later → e.Requests a s p c k r →
    ∃ begun ∈ earlier, begun.Aims a s c p
  /-- With whatever else is sent the listener of one of the subscriptions asks to have a registration taken off. -/
  others : ∀ (r : RequestId) (request : Request), sys.requests[r]? = some request →
    (∃ e ∈ past, ∃ a s p c k, e.Requests a s p c k r) ∨
      ∃ s sub, sys.subscription? s = some sub ∧ sub.listener.Removes request.message
  /-- No two requests of any kind have the same correlation id. -/
  distinct : sys.correlations < 2 ^ 64 → sys.Labelled
  /-- The id that a call has returned is that of the subscription that it sent the first request for, and stays what
      it is. -/
  named : ∀ earlier e later a s, past = earlier ++ e :: later → e.Returns a (.subscribed (.ok s)) →
    sys.outcome? a = some (.subscribed (.ok s)) ∧
      ∃ asked ∈ earlier, ∃ token c k r, asked.Requests a s (.first token) c k r

section
variable {sys next : System σ κ} {a b : ActivityId} {s t : SubscriptionId} {sub now : Subscription σ κ}
  {stage later : Stage σ κ} {change : Change σ κ} {move : Move σ κ} {p : Purpose} {c : ConnectionId} {k : Int64}
  {r : RequestId} {m : Message} {late : Bool} {listener : Listener σ κ}

/-! ## What a turn sends -/

/-- A turn asks for a registration, or to have one taken off, or for nothing. -/
theorem Turn.asks (turn : Turn sys a s sub stage change) :
    change.requests = sys.requests ∨
      (∃ p c k m, stage = .addRoute s p c k m ∧ change.requests = sys.requests ++ [⟨c, m, .spawned⟩]) ∨
      ∃ c message, sub.listener.Removes message ∧ change.requests = sys.requests ++ [⟨c, message, .spawned⟩] := by
  cases turn with
  | addRoute p c k m => exact .inr (.inl ⟨p, c, k, m, rfl, rfl⟩)
  | remove _ _ _ removal set => exact .inr (.inr ⟨_, _, ⟨_, _, _, removal, set⟩, rfl⟩)
  | _ => exact .inl rfl

/-- An errand asks to have a registration taken off that came late, or for nothing. -/
theorem Errand.asks (errand : Errand sys a stage change) :
    change.requests = sys.requests ∨
      ∃ listener c r message, stage = .release listener c r ∧ listener.Removes message ∧
        change.requests = sys.requests ++ [⟨c, message, .sent⟩] := by
  cases errand with
  | release _ _ _ removal set => exact .inr ⟨_, _, _, _, rfl, ⟨_, _, _, removal, set⟩, rfl⟩
  | _ => exact .inl rfl

/-- Nobody comes to release a registration in a turn of its own. -/
theorem Turn.not_releases (turn : Turn sys a s sub stage change) : change.stage ≠ .release listener c r := by
  cases turn <;> simp

/-- An errand begins no release. -/
theorem Errand.not_releases (errand : Errand sys a stage change) :
    change.stage ≠ .release listener c r ∧ .release listener c r ∉ change.started := by
  cases errand <;> simp [waiting]

/-! ## The listeners of subscriptions -/

theorem Has.step (has : sys.Has listener) (taken : sys.step? move = some next) : next.Has listener := by
  obtain ⟨s, sub, found, rfl⟩ := has
  obtain ⟨now, found, same, -⟩ := listener_of_step taken found
  exact ⟨s, now, found, same⟩

/-- Whoever comes to release a registration has been there for that, or begins for a subscription. -/
theorem release_before (taken : sys.step? move = some next) (there : next.stage? b = some (.release listener c r)) :
    sys.stage? b = some (.release listener c r) ∨ sys.Has listener := by
  by_cases turns : ∃ a, move = .proceed a
  · obtain ⟨a, rfl⟩ := turns
    obtain ⟨stage, change, -, rfl, ⟨s, sub, -, found, turn⟩ | ⟨-, errand⟩⟩ := after_of_proceed taken
    · rcases stage?_after_cases there with ⟨-, same⟩ | ⟨-, before⟩ | ⟨-, -, begun⟩
      · exact absurd same.symm turn.not_releases
      · exact .inl before
      · obtain ⟨c', r', same⟩ := turn.started_eq begun
        cases same
        exact .inr ⟨s, sub, found, rfl⟩
    · rcases stage?_after_cases there with ⟨-, same⟩ | ⟨-, before⟩ | ⟨-, -, begun⟩
      · exact absurd same.symm errand.not_releases.1
      · exact .inl before
      · exact absurd begun errand.not_releases.2
  · rcases (drifts_of_step taken fun a same => turns ⟨a, same⟩).new b _ there with ⟨stage, before, drift⟩ |
      ⟨-, beginning, same⟩
    · cases drift
      exact .inl before
    · cases beginning <;> cases same

/-! ## Where a registration is made -/

/-- Whoever registers a subscription again has been about to, or has just asked for the lock. -/
theorem Turn.renews?_eq (turn : Turn sys a s sub stage change) (renews : change.stage.renews? = some (t, c)) :
    stage.renews? = some (t, c) ∨ stage = .lock t (.reinstall c) := by
  cases turn with
  | addRoute p => cases p <;> exact .inl renews
  | wait goal =>
    cases goal <;> cases renews
    exact .inr rfl
  | dropAgain acquires =>
    cases renews
    cases acquires with
    | free => exact .inr rfl
    | given => exact .inl rfl
  | installAgain ready =>
    cases renews
    cases ready with
    | unrouted acquires =>
      cases acquires with
      | free => exact .inr rfl
      | given => exact .inl rfl
    | dropped => exact .inl rfl
  | _ => cases renews

/-- A registration is made for the first time on the connection for new requests. -/
theorem Turn.listed_of_adding {token : Option TokenId} (turn : Turn sys a s sub stage change)
    (adding : change.stage = .addRoute t (.first token) c k m) : stage = .list t token ∧ sys.current = some c := by
  cases turn <;> cases adding
  next current set => exact ⟨rfl, current⟩

/-- The call that returns a subscription has waited for its registration. -/
theorem Turn.waited_of_given (turn : Turn sys a t sub stage change)
    (given : change.stage = .done (.subscribed (.ok s))) :
    t = s ∧ ∃ token c k r late, stage = .awaitRegistration s (.first token) c k r late := by
  cases turn <;> cases given
  exact ⟨rfl, _, _, _, _, _, rfl⟩

theorem Errand.not_given (errand : Errand sys a stage change) : change.stage ≠ .done (.subscribed (.ok s)) := by
  cases errand with
  | miss goal => cases goal <;> simp [Goal.missing]
  | _ => simp [waiting]

/-! ## One step -/

/-- A request stays what it is, however far it gets. -/
theorem request_of_step (taken : sys.step? move = some next) {request : Request}
    (there : sys.requests[r]? = some request) :
    ∃ phase, next.requests[r]? = some ⟨request.connection, request.message, phase⟩ := by
  by_cases turns : ∃ a, move = .proceed a
  · obtain ⟨a, rfl⟩ := turns
    obtain ⟨stage, change, -, rfl, kind⟩ := after_of_proceed taken
    obtain ⟨extra, grown⟩ : ∃ extra, change.requests = sys.requests ++ extra := by
      rcases kind with ⟨s, sub, -, -, turn⟩ | ⟨-, errand⟩
      · obtain ⟨extra, grown, -⟩ := turn.requests_more
        exact ⟨extra, grown⟩
      · obtain ⟨extra, grown, -⟩ := errand.requests_more
        exact ⟨extra, grown⟩
    refine ⟨request.phase, ?_⟩
    show change.requests[r]? = some request
    rw [grown, List.getElem?_append_left (List.getElem?_eq_some_iff.mp there).1, there]
  · exact (drifts_of_step taken fun a same => turns ⟨a, same⟩).requests r request there

/-- Whatever has been sent was sent before, asks for a registration, or asks to have one taken off. -/
theorem request_before (taken : sys.step? move = some next)
    (releasing : ∀ b listener c r, sys.stage? b = some (.release listener c r) → sys.Has listener)
    {request : Request} (there : next.requests[r]? = some request) :
    (∃ old, sys.requests[r]? = some old ∧ old.message = request.message) ∨
      (∃ a s p c k, Step.Requests ⟨sys, move, next⟩ a s p c k r) ∨
        ∃ listener, sys.Has listener ∧ listener.Removes request.message := by
  by_cases turns : ∃ a, move = .proceed a
  · obtain ⟨a, rfl⟩ := turns
    obtain ⟨stage, change, here, rfl, kind⟩ := after_of_proceed taken
    have there : change.requests[r]? = some request := there
    rcases kind with ⟨s, sub, -, found, turn⟩ | ⟨-, errand⟩
    · rcases turn.asks with same | ⟨p, c, k, m, rfl, sent⟩ | ⟨c, message, removes, sent⟩
      · exact .inl ⟨request, same ▸ there, rfl⟩
      · rcases getElem?_concat (sent ▸ there) with old | ⟨rfl, -⟩
        · exact .inl ⟨request, old, rfl⟩
        · exact .inr (.inl ⟨a, s, p, c, k, ⟨m, rfl, here⟩, rfl⟩)
      · rcases getElem?_concat (sent ▸ there) with old | ⟨-, rfl⟩
        · exact .inl ⟨request, old, rfl⟩
        · exact .inr (.inr ⟨_, ⟨s, sub, found, rfl⟩, removes⟩)
    · rcases errand.asks with same | ⟨listener, c, r, message, rfl, removes, sent⟩
      · exact .inl ⟨request, same ▸ there, rfl⟩
      · rcases getElem?_concat (sent ▸ there) with old | ⟨-, rfl⟩
        · exact .inl ⟨request, old, rfl⟩
        · exact .inr (.inr ⟨listener, releasing a listener c r here, removes⟩)
  · have drifts := drifts_of_step taken fun a same => turns ⟨a, same⟩
    have bound : r < sys.requests.length := by
      rw [← drifts.total]
      exact (List.getElem?_eq_some_iff.mp there).1
    obtain ⟨phase, same⟩ := drifts.requests r _ (List.getElem?_eq_getElem bound)
    refine .inl ⟨_, List.getElem?_eq_getElem bound, ?_⟩
    rw [← Option.some.inj (same.symm.trans there)]

/-- What a subscription is created with is what its listener gave. -/
theorem request_of_created (taken : sys.step? move = some next) (new : sys.subscription? s = none)
    (there : next.subscription? s = some now) : now.listener.request = .ok now.request := by
  by_cases turns : ∃ a, move = .proceed a
  · obtain ⟨a, rfl⟩ := turns
    obtain ⟨stage, change, -, rfl, ⟨t, old, -, found, turn⟩ | ⟨-, errand⟩⟩ := after_of_proceed taken
    · obtain ⟨now', put, -⟩ := turn.listener_eq found
      have other : s ≠ t := by
        rintro rfl
        cases new.symm.trans found
      cases new.symm.trans ((subscription?_put_of_ne put other).symm.trans there)
    · rcases errand.subscription?_cases there with before | ⟨-, listener, token, request, -, asked, rfl⟩
      · cases new.symm.trans before
      · exact asked
  · have drifts := drifts_of_step taken fun a same => turns ⟨a, same⟩
    have there : sys.subscriptions[s]? = some now := drifts.subscriptions ▸ there
    cases new.symm.trans there

end

/-! ## Runs -/

section
variable {past rest : List (Step (System σ κ) (Move σ κ))} {base sys : System σ κ} {limit : Timespan} {surroundings : σ}
  {e e' : Step (System σ κ) (Move σ κ)} {a b : ActivityId} {s : SubscriptionId} {sub : Subscription σ κ}
  {stage : Stage σ κ} {p p' : Purpose} {c c' : ConnectionId} {k k' : Int64} {r r' : RequestId} {m : Message}
  {listener : Listener σ κ}

theorem requests_since (goesOn : Past step? base rest sys) {request : Request}
    (there : base.requests[r]? = some request) :
    ∃ phase, sys.requests[r]? = some ⟨request.connection, request.message, phase⟩ := by
  refine goesOn.invariant
    (motive := fun sys => ∃ phase, sys.requests[r]? = some ⟨request.connection, request.message, phase⟩)
    ⟨request.phase, there⟩ ?_
  rintro sys move next ⟨phase, there⟩ taken
  obtain ⟨later, there⟩ := request_of_step taken there
  exact ⟨later, there⟩

/-- The request of a subscription is the one that its listener gave. -/
theorem request_of_creates (run : Past step? (System.new limit surroundings) past sys) (there : e ∈ past)
    (creates : e.Creates a s listener) :
    ∃ sub, sys.subscription? s = some sub ∧ listener.request = .ok sub.request := by
  obtain ⟨earlier, later, split⟩ := List.append_of_mem there
  obtain ⟨-, new, created, found, -, rfl⟩ := creates
  obtain ⟨sub, now, -, same⟩ := listener_since (run.since split) found
  exact ⟨sub, now, by rw [same]; exact request_of_created (run.upto split).2 new found⟩

/-- Whoever is about to make a route carries a copy of the request of its subscription. -/
theorem carries_of_past (run : Past step? (System.new limit surroundings) past sys)
    (here : sys.stage? a = some (.addRoute s p c k m)) :
    ∃ sub, sys.subscription? s = some sub ∧ m.Repeats sub.request k := by
  induction run with
  | start => cases here
  | @step past now next move run taken ih =>
    rcases stage?_of_step taken here with
      ⟨stage, change, rfl, here', rfl, adding, ⟨t, sub, -, found, turn⟩ | ⟨-, errand⟩⟩ | ⟨-, stage, here', drift⟩ |
        ⟨-, begins⟩
    · obtain ⟨rfl, set⟩ := turn.request_of_adding adding.symm
      obtain ⟨now, put, -, same⟩ := turn.listener_eq found
      refine ⟨now, subscription?_put put found, ?_⟩
      rw [same]
      exact Message.repeats_of_setCorrelation set
    · cases errand <;> cases adding
    · cases drift
      obtain ⟨sub, found, repeats⟩ := ih here'
      obtain ⟨later, found, -, same⟩ := listener_of_step taken found
      exact ⟨later, found, same ▸ repeats⟩
    · cases begins.engages?

/-- Whoever is about to make the first route of a subscription has put it into the table, and there was a connection
    for new requests then. -/
theorem listed_of_past {token : Option TokenId} (run : Past step? (System.new limit surroundings) past sys)
    (here : sys.stage? a = some (.addRoute s (.first token) c k m)) :
    ∃ e ∈ past, e.Turns a (.list s token) ∧ e.before.current = some c := by
  induction run with
  | start => cases here
  | step move run taken ih =>
    rcases stage?_of_step taken here with
      ⟨stage, change, rfl, here', rfl, adding, ⟨t, sub, -, found, turn⟩ | ⟨-, errand⟩⟩ | ⟨-, stage, here', drift⟩ |
        ⟨-, begins⟩
    · obtain ⟨rfl, current⟩ := turn.listed_of_adding adding.symm
      exact ⟨_, List.mem_concat_self, ⟨rfl, here'⟩, current⟩
    · cases errand <;> cases adding
    · cases drift
      obtain ⟨e, there, listed⟩ := ih here'
      exact ⟨e, List.mem_append_left _ there, listed⟩
    · cases begins.engages?

/-- Whoever registers a subscription again was sent for it: it began by asking for the lock. -/
theorem sent_again_of_past (run : Past step? (System.new limit surroundings) past sys)
    (here : sys.stage? a = some stage) (renews : stage.renews? = some (s, c)) :
    ∃ e ∈ past, e.Turns a (.lock s (.reinstall c)) := by
  induction run generalizing stage with
  | start => cases here
  | @step past now next move run taken ih =>
    have before {stage : Stage σ κ} (here : now.stage? a = some stage) (renews : stage.renews? = some (s, c)) :
        ∃ e ∈ past ++ [⟨now, move, next⟩], e.Turns a (.lock s (.reinstall c)) := by
      obtain ⟨e, there, begun⟩ := ih here renews
      exact ⟨e, List.mem_append_left _ there, begun⟩
    rcases stage?_of_step taken here with
      ⟨earlier, change, rfl, here', rfl, rfl, ⟨t, sub, -, found, turn⟩ | ⟨-, errand⟩⟩ | ⟨-, earlier, here', drift⟩ |
        ⟨-, begins⟩
    · rcases turn.renews?_eq renews with earlier | rfl
      · exact before here' earlier
      · exact ⟨_, List.mem_concat_self, rfl, here'⟩
    · cases errand <;> cases renews
    · exact before here' (drift.renews? ▸ renews)
    · cases begins with
      | asked beginning => cases beginning <;> cases renews
      | _ => cases renews

/-- A registration is made on the connection for new requests, or on the one that somebody was sent for. -/
theorem aims_of_past (run : Past step? (System.new limit surroundings) past sys)
    (here : sys.stage? a = some (.addRoute s p c k m)) : ∃ begun ∈ past, begun.Aims a s c p := by
  cases p with
  | first token => exact listed_of_past run here
  | again => exact sent_again_of_past run here rfl

/-- What is sent for a registration repeats the request of its subscription. -/
theorem repeats_of_requests (run : Past step? (System.new limit surroundings) past sys) (there : e ∈ past)
    (asks : e.Requests a s p c k r) :
    ∃ sub request, sys.subscription? s = some sub ∧ sys.requests[r]? = some request ∧ request.connection = c ∧
      request.message.Repeats sub.request k ∧ e.Sends a ⟨c, request.message, .spawned⟩ := by
  obtain ⟨earlier, later, split⟩ := List.append_of_mem there
  obtain ⟨upto, taken⟩ := run.upto split
  obtain ⟨m, here, sends⟩ := sends_of_requests taken asks
  obtain ⟨-, rfl⟩ := asks
  obtain ⟨sub, found, repeats⟩ := carries_of_past upto here
  obtain ⟨now, found', -, same⟩ := listener_of_step taken found
  obtain ⟨last, found'', -, same'⟩ := listener_since (run.since split) found'
  have fresh : e.after.requests[e.before.requests.length]? = some ⟨c, m, .spawned⟩ := by simp [sends.2]
  obtain ⟨phase, lasts⟩ := requests_since (run.since split) fresh
  exact ⟨last, _, found'', lasts, rfl, by rw [same', same]; exact repeats, sends⟩

/-- Whoever releases a registration does it for one of the subscriptions. -/
theorem has_of_release (run : Past step? (System.new limit surroundings) past sys)
    (here : sys.stage? b = some (.release listener c r)) : sys.Has listener := by
  induction run with
  | start => simp [System.new, stage?] at here
  | step move run taken ih =>
    rcases release_before taken here with before | has
    · exact (ih before).step taken
    · exact has.step taken

/-- Whatever has been sent asks for a registration, or to have one taken off. -/
theorem origin_of_request (run : Past step? (System.new limit surroundings) past sys) {request : Request}
    (there : sys.requests[r]? = some request) :
    (∃ e ∈ past, ∃ a s p c k, e.Requests a s p c k r) ∨
      ∃ listener, sys.Has listener ∧ listener.Removes request.message := by
  induction run generalizing request with
  | start => simp [System.new] at there
  | step move run taken ih =>
    rcases request_before taken (fun _ _ _ _ => has_of_release run) there with
      ⟨old, there, same⟩ | asks | ⟨listener, has, removes⟩
    · rw [← same]
      rcases ih there with ⟨e, there, asks⟩ | ⟨listener, has, removes⟩
      · exact .inl ⟨e, List.mem_append_left _ there, asks⟩
      · exact .inr ⟨listener, has.step taken, removes⟩
    · exact .inl ⟨_, List.mem_concat_self, asks⟩
    · exact .inr ⟨listener, has.step taken, removes⟩

/-! ## Correlation ids -/

/-- One more request has a correlation id of its own. -/
theorem Labelled.more (labelled : sys.Labelled) (fresh : ∀ request ∈ sys.requests, request.message.correlation ≠ .ok k)
    {request : Request} (carries : request.message.correlation = .ok k) :
    ∃ ids : List Int64, ids.Nodup ∧ (sys.requests ++ [request]).map (·.message.correlation) = ids.map .ok := by
  obtain ⟨ids, nodup, labels⟩ := labelled
  refine ⟨ids ++ [k], List.nodup_append.mpr ⟨nodup, List.nodup_singleton k, ?_⟩, by simp [labels, carries]⟩
  rintro id there other new rfl
  obtain rfl := List.mem_singleton.mp new
  have labelled : (Except.ok id : Except Fault Int64) ∈ sys.requests.map (·.message.correlation) :=
    labels ▸ List.mem_map_of_mem there
  obtain ⟨request, member, carries⟩ := List.mem_map.mp labelled
  exact fresh request member carries

theorem labelled_of_past (run : Past step? (System.new limit surroundings) past sys)
    (few : sys.correlations < 2 ^ 64) : sys.Labelled := by
  induction run with
  | start => exact ⟨[], List.nodup_nil, rfl⟩
  | @step past now next move run taken ih =>
    have few' := Nat.lt_of_le_of_lt (correlations_le_of_step taken) few
    have labelled := ih few'
    have asked := asked_of_past run few'
    -- an id that is new is not that of any request
    have fresh (used : now.correlations + 1 < 2 ^ 64) :
        ∀ request ∈ now.requests, request.message.correlation ≠ .ok now.nextCorrelation :=
      fun request there carries => nextCorrelation_fresh used (asked.issued request there _ carries)
    by_cases turns : ∃ a, move = .proceed a
    · obtain ⟨a, rfl⟩ := turns
      obtain ⟨stage, change, here, rfl, ⟨s, sub, -, -, turn⟩ | ⟨-, errand⟩⟩ := after_of_proceed taken
      · rcases turn.requests_eq with same | ⟨p, c, k, m, rfl, -, sent⟩ | ⟨token, c, m, -, stamped, used, sent⟩
        · simpa only [Labelled, after_requests, same] using labelled
        · obtain ⟨carries, others⟩ := asked.coming a s p c k m here
          rw [Labelled, after_requests, sent]
          exact labelled.more others carries
        · rw [Labelled, after_requests, sent]
          exact labelled.more (fresh (used ▸ few)) stamped
      · rcases errand.requests_eq with same | ⟨c, m, stamped, used, sent⟩
        · simpa only [Labelled, after_requests, same] using labelled
        · rw [Labelled, after_requests, sent]
          exact labelled.more (fresh (used ▸ few)) stamped
    · have drifts := drifts_of_step taken fun a same => turns ⟨a, same⟩
      have same : next.requests.map (·.message.correlation) = now.requests.map (·.message.correlation) := by
        refine List.ext_getElem (by simp [drifts.total]) fun r bound bound' => ?_
        have bound : r < now.requests.length := by simpa using bound'
        obtain ⟨phase, there⟩ := drifts.requests r _ (List.getElem?_eq_getElem bound)
        obtain ⟨within, same⟩ := List.getElem?_eq_some_iff.mp there
        simp [same]
      rw [Labelled, same]
      exact labelled

/-! ## Both together -/

theorem replays_of_past (run : Past step? (System.new limit surroundings) past sys) : Replays past sys where
  given e there a s listener creates := request_of_creates run there creates
  retained e there s sub found := by
    obtain ⟨earlier, upto, taken⟩ := run.mem there
    obtain ⟨now, found, -, same⟩ := listener_of_step taken found
    exact ⟨now, found, same⟩
  sent e there a s p c k r asks := repeats_of_requests run there asks
  alike e there e' there' a a' s p p' c c' k k' r r' asks asks' := by
    obtain ⟨sub, request, found, sent, -, repeats, -⟩ := repeats_of_requests run there asks
    obtain ⟨sub', request', found', sent', -, repeats', -⟩ := repeats_of_requests run there' asks'
    obtain rfl := Option.some.inj (found.symm.trans found')
    exact ⟨request, request', sent, sent', repeats.other repeats'⟩
  aimed earlier e later a s p c k r split asks := by
    obtain ⟨⟨m, -, here⟩, -⟩ := asks
    exact aims_of_past (run.upto split).1 here
  others r request there := by
    rcases origin_of_request run there with asks | ⟨_, ⟨s, sub, found, rfl⟩, removes⟩
    · exact .inl asks
    · exact .inr ⟨s, sub, found, removes⟩
  distinct few := labelled_of_past run few
  named earlier e later a s split returns := by
    obtain ⟨upto, taken⟩ := run.upto split
    obtain ⟨own, returned⟩ := returns
    rw [outcome?_eq_some] at returned ⊢
    rw [own] at taken
    refine ⟨(run.since split).invariant (motive := fun sys => sys.stage? a = some _) returned
      fun _ _ _ here taken => (done_of_step here taken).1, ?_⟩
    obtain ⟨stage, change, here, after, kind⟩ := after_of_proceed taken
    rw [after, stage?_after_self here] at returned
    rcases kind with ⟨t, sub, -, -, turn⟩ | ⟨-, errand⟩
    · obtain ⟨rfl, token, c, k, r, late, rfl⟩ := turn.waited_of_given (Option.some.inj returned)
      obtain ⟨made, there, asks⟩ := sent_of_past upto here
      exact ⟨made, there, token, c, k, r, asks⟩
    · exact absurd (Option.some.inj returned) errand.not_given

end

/-- A subscription is registered on a connection, and again on another in the second attempt. What goes out each time
    repeats its request. -/
theorem lost_registration_is_replayed : ∃ (past : _) (sys : System Unit Unit),
    Past step? (System.new (.ofSeconds 60) ()) past sys ∧
      sys.requests.map (fun request => (request.connection, request.message.correlation.toOption)) =
        [(0, some 1), (1, some 2), (1, some 3), (1, some 4)] ∧
      sys.Labelled ∧ Replays past sys := by
  have done : (lifetime.foldlM step? (System.new (.ofSeconds 60) ())).any fun sys =>
      sys.requests.map (fun request => (request.connection, request.message.correlation.toOption)) ==
        [(0, some 1), (1, some 2), (1, some 3), (1, some 4)] && decide (sys.correlations < 2 ^ 64) := by
    decide +kernel
  rw [Option.any_eq_true] at done
  obtain ⟨sys, done, facts⟩ := done
  simp only [Bool.and_eq_true, beq_iff_eq, decide_eq_true_eq] at facts
  obtain ⟨sent, few⟩ := facts
  obtain ⟨past, run, -⟩ := Past.of_moves done
  have replays := replays_of_past run
  exact ⟨past, sys, run, sent, replays.distinct few, replays⟩

end System
end Datagrid
