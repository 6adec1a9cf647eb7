import Datagrid.Proofs.Subscription.Removal
import Datagrid.Proofs.Subscription.Responses

/-!
Releases: what becomes of the request for a registration once nobody waits for that any
longer. Another activity waits for the response in the place of the one that gave up. If
the response brings a registration, the member is asked once to take it off again, on the
same connection; if it brings none, nobody is asked for anything.
-/
namespace Datagrid

variable {σ κ : Type}

/-- An activity has dealt with the response that it waited for in the place of another. -/
inductive Stage.Freed : Stage σ κ → Prop where
  | released (r : RequestId) : Freed (.released r)
  | done : Freed (.done .finished)

theorem Stage.Drift.freed {stage later : Stage σ κ} (drift : stage.Drift later) (freed : stage.Freed) : later.Freed := by
  cases freed <;> cases drift <;> constructor

namespace System

/-- Whatever is waited for has been asked for, and by nobody else. -/
structure Waited (sys : System σ κ) : Prop where
  within : ∀ r, sys.Awaits r → r < sys.requests.length
  alone : sys.Alone

/-- What is asked of the member once the response is there that nobody else waits for: the requests
    after it, and how many correlation ids have been used then. -/
inductive Releasing (sys : System σ κ) (listener : Listener σ κ) (c : ConnectionId) (r : RequestId) :
    List Request → Nat → Prop where
  /-- The response brings no registration. -/
  | nothing {reply : Except Fault Message} {fault : Fault} : sys.reply? r = some reply →
      reply.bind listener.registration = .error fault → Releasing sys listener c r sys.requests sys.correlations
  | unsaid {reply : Except Fault Message} {id : Uuid} {correlations : Nat} : sys.reply? r = some reply →
      reply.bind listener.registration = .ok id → sys.Unsaid listener id →
      Releasing sys listener c r sys.requests correlations
  | asked {reply : Except Fault Message} {id : Uuid} {m message : Message} : sys.reply? r = some reply →
      reply.bind listener.registration = .ok id → listener.removal id = .ok m →
      m.setCorrelation sys.nextCorrelation = .ok message →
      Releasing sys listener c r (sys.requests ++ [⟨c, message, .sent⟩]) (sys.correlations + 1)

section
variable {sys next : System σ κ} {a b : ActivityId} {s : SubscriptionId} {stage : Stage σ κ} {change : Change σ κ}
  {move : Move σ κ} {listener : Listener σ κ} {c : ConnectionId} {r : RequestId}

/-! ## Who waits -/

theorem requests_le_of_step (taken : sys.step? move = some next) : sys.requests.length ≤ next.requests.length := by
  by_cases turns : ∃ a, move = .proceed a
  · obtain ⟨a, rfl⟩ := turns
    obtain ⟨stage, change, -, rfl, kind⟩ := after_of_proceed taken
    obtain ⟨extra, grown⟩ : ∃ extra, change.requests = sys.requests ++ extra := by
      rcases kind with ⟨s, sub, -, -, turn⟩ | ⟨-, errand⟩
      · obtain ⟨extra, grown, -⟩ := turn.requests_more
        exact ⟨extra, grown⟩
      · obtain ⟨extra, grown, -⟩ := errand.requests_more
        exact ⟨extra, grown⟩
    simp [grown]
  · have drifts := drifts_of_step taken fun a same => turns ⟨a, same⟩
    exact Nat.le_of_eq drifts.total.symm

/-- What has been answered stays answered. -/
theorem reply?_lasts {reply : Except Fault Message} (taken : sys.step? move = some next)
    (replied : sys.reply? r = some reply) : next.reply? r = some reply := by
  by_cases turns : ∃ a, move = .proceed a
  · obtain ⟨a, rfl⟩ := turns
    obtain ⟨stage, change, -, rfl, ⟨s, sub, -, -, turn⟩ | ⟨-, errand⟩⟩ := after_of_proceed taken
    · obtain ⟨extra, grown, fresh⟩ := turn.requests_more
      rw [reply?_more grown fresh]
      exact replied
    · obtain ⟨extra, grown, fresh⟩ := errand.requests_more
      rw [reply?_more grown fresh]
      exact replied
  · exact (reply?_of_step taken fun a same => turns ⟨a, same⟩).1 r reply replied

/-- Nobody comes to wait for anything but a request that is new. -/
theorem awaits_of_step (taken : sys.step? move = some next) (awaits : next.Awaits r) :
    sys.Awaits r ∨ r = sys.requests.length ∧ r < next.requests.length := by
  by_cases turns : ∃ a, move = .proceed a
  · obtain ⟨a, rfl⟩ := turns
    obtain ⟨stage, change, here, rfl, kind⟩ := after_of_proceed taken
    rcases (awaits_after here).mp awaits with waits | ⟨b, later, -, there, waits⟩ | ⟨begun, started, waits⟩
    · rcases kind with ⟨s, sub, -, -, turn⟩ | ⟨-, errand⟩
      · rcases turn.waits with ⟨-, leaves⟩ | ⟨-, -, p, c, k, m, -, coming, sent⟩ | ⟨p, c, k, q, late, -, leaves, -⟩
        · simp [leaves] at waits
        · rw [coming] at waits
          obtain rfl := Option.some.inj waits
          exact .inr ⟨rfl, by simp [sent]⟩
        · simp [leaves] at waits
      · simp [errand.idle.1] at waits
    · exact .inl ⟨b, later, there, waits⟩
    · rcases kind with ⟨s, sub, -, -, turn⟩ | ⟨-, errand⟩
      · rcases turn.waits with ⟨began, -⟩ | ⟨began, -⟩ | ⟨p, c, k, q, late, rfl, -, began, -⟩
        · simp [began] at started
        · simp [began] at started
        · rw [began] at started
          obtain rfl := List.mem_singleton.mp started
          exact .inl ⟨a, _, here, waits⟩
      · simp [errand.idle.2 begun started] at waits
  · exact .inl ((drifts_of_step taken fun a same => turns ⟨a, same⟩).awaits_iff.mp awaits)

theorem Waited.step (waited : sys.Waited) (taken : sys.step? move = some next) : next.Waited := by
  refine ⟨?_, ?_⟩
  · intro r awaits
    rcases awaits_of_step taken awaits with before | ⟨-, within⟩
    · exact Nat.lt_of_lt_of_le (waited.within r before) (requests_le_of_step taken)
    · exact within
  · by_cases turns : ∃ a, move = .proceed a
    · obtain ⟨a, rfl⟩ := turns
      obtain ⟨stage, change, here, rfl, ⟨s, sub, -, -, turn⟩ | ⟨-, errand⟩⟩ := after_of_proceed taken
      · exact waited.alone.turn (fun new => Nat.lt_irrefl _ (waited.within _ new)) here turn
      · exact waited.alone.errand here errand
    · exact waited.alone.drifts (drifts_of_step taken fun a same => turns ⟨a, same⟩)

/-! ## What is asked -/

/-- Whoever waits in the place of another deals with the response once it is there. -/
theorem Errand.releases (errand : Errand sys b (.release listener c r) change) :
    change.stage.Freed ∧ change.started = [] ∧ sys.Releasing listener c r change.requests change.correlations := by
  cases errand with
  | nothingToRelease _ replied refused => exact ⟨.done, rfl, .nothing replied refused⟩
  | unreleased _ replied read failure => exact ⟨.done, rfl, .unsaid replied read (unsaid_of_failure failure)⟩
  | release _ replied read removal set => exact ⟨.released _, rfl, .asked replied read removal set⟩

/-- The turn in which that is dealt with. -/
theorem releases_of_step (here : sys.stage? b = some (.release listener c r))
    (taken : sys.step? (.proceed b) = some next) :
    (∃ stage, next.stage? b = some stage ∧ stage.Freed) ∧
      sys.Releasing listener c r next.requests next.correlations ∧ (sys.Alone → ¬ next.Awaits r) := by
  obtain ⟨stage, change, here', rfl, ⟨t, sub, about, -⟩ | ⟨-, errand⟩⟩ := after_of_proceed taken
  · obtain rfl := Option.some.inj (here.symm.trans here')
    cases about
  · obtain rfl := Option.some.inj (here.symm.trans here')
    obtain ⟨freed, began, releasing⟩ := errand.releases
    refine ⟨⟨_, stage?_after_self here, freed⟩, releasing, ?_⟩
    intro alone awaits
    exact ((awaits_over alone here rfl errand.idle.1 began).mp awaits).2 rfl

theorem Releasing.replied {requests : List Request} {correlations : Nat}
    (releasing : sys.Releasing listener c r requests correlations) : ∃ reply, sys.reply? r = some reply := by
  cases releasing with
  | nothing replied | unsaid replied | asked replied => exact ⟨_, replied⟩

/-- Where the response brings no registration, nobody is asked for anything. -/
theorem Releasing.silent {requests : List Request} {correlations : Nat} {reply : Except Fault Message} {fault : Fault}
    (releasing : sys.Releasing listener c r requests correlations) (replied : sys.reply? r = some reply)
    (refused : reply.bind listener.registration = .error fault) : requests = sys.requests := by
  cases releasing with
  | nothing | unsaid => rfl
  | asked replied' read =>
    obtain rfl := Option.some.inj (replied.symm.trans replied')
    cases read.symm.trans refused

/-- Where the response brings a registration and the member can be asked to take it off, it is. -/
theorem asks_of_releasing {requests : List Request} {correlations : Nat} {reply : Except Fault Message} {id : Uuid}
    (releasing : sys.Releasing listener c r requests correlations) (replied : sys.reply? r = some reply)
    (read : reply.bind listener.registration = .ok id)
    (encodes : ∀ k, ∃ m message, listener.removal id = .ok m ∧ m.setCorrelation k = .ok message) :
    ∃ request, requests = sys.requests ++ [request] := by
  cases releasing with
  | nothing replied' refused =>
    obtain rfl := Option.some.inj (replied.symm.trans replied')
    cases read.symm.trans refused
  | unsaid replied' read' unsaid =>
    obtain rfl := Option.some.inj (replied.symm.trans replied')
    obtain rfl := Except.ok.inj (read.symm.trans read')
    obtain ⟨m, message, removal, set⟩ := encodes sys.nextCorrelation
    exact absurd set (unsaid m message removal)
  | asked => exact ⟨_, rfl⟩

/-- Once the response is there, nothing holds that turn up. -/
theorem proceeds_of_release {reply : Except Fault Message} (here : sys.stage? b = some (.release listener c r))
    (replied : sys.reply? r = some reply) : ∃ next, sys.step? (.proceed b) = some next := by
  simp only [step?, proceed, here, Stage.subscription?, proceedAlone, replied]
  split
  · exact ⟨_, rfl⟩
  · split <;> exact ⟨_, rfl⟩

/-- Whoever has dealt with the response asks for nothing more. -/
theorem freed_of_step (freed : ∃ stage, sys.stage? b = some stage ∧ stage.Freed) (taken : sys.step? move = some next) :
    (∃ stage, next.stage? b = some stage ∧ stage.Freed) ∧ (move = .proceed b → next.requests = sys.requests) := by
  obtain ⟨stage, here, freed⟩ := freed
  by_cases own : move = .proceed b
  · subst own
    obtain ⟨stage', change, here', rfl, kind⟩ := after_of_proceed taken
    obtain rfl := Option.some.inj (here.symm.trans here')
    have self : (sys.after b change).stage? b = some change.stage := stage?_after_self here
    rcases kind with ⟨s, sub, about, -⟩ | ⟨-, errand⟩
    · cases freed <;> cases about
    · cases freed with
      | released =>
        cases errand
        exact ⟨⟨_, self, .done⟩, fun _ => rfl⟩
      | done => cases errand
  · obtain ⟨later, there, drift⟩ := drift_of_step taken own here
    exact ⟨⟨later, there, drift.freed freed⟩, fun same => absurd same own⟩

end

/-! ## Through a run -/

/-- A request that is abandoned is released: another activity waits for the response in the place
    of the one that gave up. -/
structure Released (more : List (Step (System σ κ) (Move σ κ))) (sys : System σ κ) (listener : Listener σ κ)
    (c : ConnectionId) (r : RequestId) (b : ActivityId) : Prop where
  /-- It asks the member for nothing but to take the registration off that the response brings, on
      the same connection, with a correlation id that no request has had, and only once. -/
  asked : ∀ earlier e later request, more = earlier ++ e :: later → e.Sends b request →
    (∃ reply id m message k, e.before.reply? r = some reply ∧ reply.bind listener.registration = .ok id ∧
      listener.removal id = .ok m ∧ m.setCorrelation k = .ok message ∧ request = ⟨c, message, .sent⟩ ∧
      message.correlation = .ok k ∧ ∀ other ∈ e.before.requests, other.message.correlation ≠ .ok k) ∧
    ∀ e' ∈ later, ∀ request', ¬ e'.Sends b request'
  /-- It asks for nothing if the response brings no registration. -/
  silent : ∀ reply fault, sys.reply? r = some reply → reply.bind listener.registration = .error fault → Silent more b
  /-- Once the response brings one, it has asked, or does so in its next turn. -/
  asks : ∀ reply id, sys.reply? r = some reply → reply.bind listener.registration = .ok id →
    (∀ k, ∃ m message, listener.removal id = .ok m ∧ m.setCorrelation k = .ok message) →
    (∃ e ∈ more, ∃ request, e.Sends b request) ∨
      ∃ next request, sys.step? (.proceed b) = some next ∧ Step.Sends ⟨sys, .proceed b, next⟩ b request
  /-- Nobody else has anything to do with the response. -/
  alone : ∀ e ∈ more, ∀ d stage, e.Turns d stage → stage.awaits? = some r → d = b

section
variable {limit : Timespan} {surroundings : σ} {past more earlier later : List (Step (System σ κ) (Move σ κ))}
  {base sys : System σ κ} {e : Step (System σ κ) (Move σ κ)} {b d : ActivityId} {stage : Stage σ κ}
  {listener : Listener σ κ} {c : ConnectionId} {r : RequestId} {request : Request}

theorem waited_of_past (run : Past step? (System.new limit surroundings) past sys) : sys.Waited := by
  refine run.invariant ⟨?_, ?_⟩ fun _ _ _ waited taken => waited.step taken
  · rintro r ⟨a, stage, here, -⟩
    cases here
  · intro a b stage later r here
    cases here

theorem reply?_since {reply : Except Fault Message} (goesOn : Past step? base more sys)
    (replied : base.reply? r = some reply) : sys.reply? r = some reply :=
  goesOn.invariant replied fun _ _ _ replied taken => reply?_lasts taken replied

theorem not_awaits_since (goesOn : Past step? base more sys) (old : r < base.requests.length) (none : ¬ base.Awaits r) :
    r < sys.requests.length ∧ ¬ sys.Awaits r := by
  induction goesOn with
  | start => exact ⟨old, none⟩
  | step move _ taken ih =>
    obtain ⟨old, none⟩ := ih
    refine ⟨Nat.lt_of_lt_of_le old (requests_le_of_step taken), ?_⟩
    intro awaits
    rcases awaits_of_step taken awaits with before | ⟨rfl, -⟩
    · exact none before
    · exact Nat.lt_irrefl _ old

theorem correlations_le_since (goesOn : Past step? base more sys) : base.correlations ≤ sys.correlations := by
  induction goesOn with
  | start => exact Nat.le_refl _
  | step move _ taken ih => exact Nat.le_trans ih (correlations_le_of_step taken)

/-- Where there are enough correlation ids in the end, there were enough at any time. -/
theorem few_of_split (goesOn : Past step? base more sys) (few : sys.correlations < 2 ^ 64)
    (split : more = earlier ++ e :: later) : e.before.correlations < 2 ^ 64 ∧ e.after.correlations < 2 ^ 64 := by
  have after := Nat.lt_of_le_of_lt (correlations_le_since (goesOn.since split)) few
  have taken := (goesOn.upto split).2
  exact ⟨Nat.lt_of_le_of_lt (correlations_le_of_step taken) after, after⟩

/-- Whoever has dealt with the response has asked for nothing more. -/
theorem freed_since (goesOn : Past step? base more sys) (freed : ∃ stage, base.stage? b = some stage ∧ stage.Freed) :
    (∃ stage, sys.stage? b = some stage ∧ stage.Freed) ∧ Silent more b := by
  induction goesOn with
  | start => exact ⟨freed, by simp [Silent]⟩
  | step move _ taken ih =>
    obtain ⟨freed, silent⟩ := ih
    obtain ⟨freed', still⟩ := freed_of_step freed taken
    exact ⟨freed', forall_mem_concat.mpr ⟨silent, still⟩⟩

/-- Whoever waits in the place of another waits until the turn in which it deals with the response. -/
theorem release_since (goesOn : Past step? base more sys) (here : base.stage? b = some (.release listener c r)) :
    sys.stage? b = some (.release listener c r) ∨
      (∃ stage, sys.stage? b = some stage ∧ stage.Freed) ∧
        ∃ earlier e later, more = earlier ++ e :: later ∧ e.Turns b (.release listener c r) := by
  induction goesOn with
  | start => exact .inl here
  | @step more now next move _ taken ih =>
    rcases ih with there | ⟨freed, earlier, e, later, split, turns⟩
    · by_cases own : move = .proceed b
      · subst own
        exact .inr ⟨(releases_of_step there taken).1, more, _, [], rfl, rfl, there⟩
      · obtain ⟨later, there', drift⟩ := drift_of_step taken own there
        cases drift
        exact .inl there'
    · exact .inr ⟨(freed_of_step freed taken).1, earlier, e, later ++ [⟨now, move, next⟩], by simp [split], turns⟩

/-- What it does in any turn. -/
private theorem releasing_of_turn (goesOn : Past step? base more sys)
    (here : base.stage? b = some (.release listener c r)) (split : more = earlier ++ e :: later)
    (own : e.move = .proceed b) :
    e.after.requests = e.before.requests ∨
      e.before.Releasing listener c r e.after.requests e.after.correlations ∧
        ∃ stage, e.after.stage? b = some stage ∧ stage.Freed := by
  obtain ⟨upto, taken⟩ := goesOn.upto split
  rcases release_since upto here with waits | ⟨freed, -⟩
  · rw [own] at taken
    obtain ⟨freed, releasing, -⟩ := releases_of_step waits taken
    exact .inr ⟨releasing, freed⟩
  · exact .inl ((freed_of_step freed taken).2 own)

/-- The request that is sent takes off the registration that the response brings. -/
private theorem asked_of_release (run : Past step? (System.new limit surroundings) past base)
    (goesOn : Past step? base more sys) (few : sys.correlations < 2 ^ 64)
    (here : base.stage? b = some (.release listener c r)) (split : more = earlier ++ e :: later)
    (sends : e.Sends b request) :
    (∃ reply id m message k, e.before.reply? r = some reply ∧ reply.bind listener.registration = .ok id ∧
      listener.removal id = .ok m ∧ m.setCorrelation k = .ok message ∧ request = ⟨c, message, .sent⟩ ∧
      message.correlation = .ok k ∧ ∀ other ∈ e.before.requests, other.message.correlation ≠ .ok k) ∧
    ∀ e' ∈ later, ∀ request', ¬ e'.Sends b request' := by
  obtain ⟨own, sent⟩ := sends
  rcases releasing_of_turn goesOn here split own with same | ⟨releasing, freed⟩
  · simp [sent] at same
  · refine ⟨?_, ?_⟩
    · have used : e.after.correlations ≤ sys.correlations := correlations_le_since (goesOn.since split)
      generalize requests : e.after.requests = after at releasing
      generalize correlations : e.after.correlations = total at releasing
      cases releasing with
      | nothing | unsaid => simp [sent] at requests
      | @asked reply id m message replied read removal set =>
        refine ⟨reply, id, m, message, _, replied, read, removal, set, ?_, Message.correlation_of_setCorrelation set, ?_⟩
        · simpa [sent] using requests
        · intro other there same
          have few' : e.before.correlations + 1 < 2 ^ 64 := by omega
          have asked := asked_of_past (run.append (goesOn.upto split).1) (by omega)
          exact nextCorrelation_fresh few' (asked.issued other there _ same)
    · rintro e' there request' ⟨own', sent'⟩
      have same := (freed_since (goesOn.since split) freed).2 e' there own'
      simp [sent'] at same

/-- Nothing is asked for if the response brings no registration. -/
private theorem silent_of_release {reply : Except Fault Message} {fault : Fault} (goesOn : Past step? base more sys)
    (here : base.stage? b = some (.release listener c r)) (replied : sys.reply? r = some reply)
    (refused : reply.bind listener.registration = .error fault) : Silent more b := by
  intro e there own
  obtain ⟨earlier, later, split⟩ := List.append_of_mem there
  rcases releasing_of_turn goesOn here split own with same | ⟨releasing, -⟩
  · exact same
  · obtain ⟨answer, before⟩ := releasing.replied
    have after := reply?_since (goesOn.since split) (reply?_lasts (goesOn.upto split).2 before)
    obtain rfl := Option.some.inj (after.symm.trans replied)
    exact releasing.silent before refused

/-- The registration that the response brings is taken off, now or already. -/
private theorem sends_of_release {reply : Except Fault Message} {id : Uuid} (goesOn : Past step? base more sys)
    (here : base.stage? b = some (.release listener c r)) (replied : sys.reply? r = some reply)
    (read : reply.bind listener.registration = .ok id)
    (encodes : ∀ k, ∃ m message, listener.removal id = .ok m ∧ m.setCorrelation k = .ok message) :
    (∃ e ∈ more, ∃ request, e.Sends b request) ∨
      ∃ next request, sys.step? (.proceed b) = some next ∧ Step.Sends ⟨sys, .proceed b, next⟩ b request := by
  rcases release_since goesOn here with waits | ⟨-, earlier, e, later, split, own, waits⟩
  · right
    obtain ⟨next, taken⟩ := proceeds_of_release waits replied
    obtain ⟨-, releasing, -⟩ := releases_of_step waits taken
    obtain ⟨request, sent⟩ := asks_of_releasing releasing replied read encodes
    exact ⟨next, request, taken, rfl, sent⟩
  · left
    have taken := (goesOn.upto split).2
    rw [own] at taken
    obtain ⟨-, releasing, -⟩ := releases_of_step waits taken
    obtain ⟨answer, before⟩ := releasing.replied
    have after := reply?_since (goesOn.since split) (reply?_lasts taken before)
    obtain rfl := Option.some.inj (after.symm.trans replied)
    obtain ⟨request, sent⟩ := asks_of_releasing releasing before read encodes
    exact ⟨e, by simp [split], request, own, sent⟩

/-- Whoever waits for the response is the one that waits in the place of another. -/
private theorem alone_of_release (run : Past step? (System.new limit surroundings) past base)
    (goesOn : Past step? base more sys) (here : base.stage? b = some (.release listener c r)) (there : e ∈ more)
    (turns : e.Turns d stage) (waits : stage.awaits? = some r) : d = b := by
  obtain ⟨between, rest, split⟩ := List.append_of_mem there
  have upto := (goesOn.upto split).1
  rcases release_since upto here with there | ⟨-, earlier, g, later, split', own, waited⟩
  · exact (waited_of_past (run.append upto)).alone d b stage _ r turns.2 there waits rfl
  · -- it has dealt with the response, and nobody waits for that ever after
    exfalso
    obtain ⟨before, taken⟩ := upto.upto split'
    rw [own] at taken
    have unwaited := waited_of_past (run.append before)
    have old := unwaited.within r ⟨b, _, waited, rfl⟩
    have none := (releases_of_step waited taken).2.2 unwaited.alone
    have old' := Nat.lt_of_lt_of_le old (requests_le_of_step taken)
    exact (not_awaits_since (upto.since split') old' none).2 ⟨d, stage, turns.2, waits⟩

/-- A request that somebody waits for in the place of another is released. -/
theorem released_since (run : Past step? (System.new limit surroundings) past base)
    (goesOn : Past step? base more sys) (few : sys.correlations < 2 ^ 64)
    (here : base.stage? b = some (.release listener c r)) : Released more sys listener c r b where
  asked _ _ _ _ split sends := asked_of_release run goesOn few here split sends
  silent _ _ replied refused := silent_of_release goesOn here replied refused
  asks _ _ replied read encodes := sends_of_release goesOn here replied read encodes
  alone _ there _ _ turns waits := alone_of_release run goesOn here there turns waits

end
end System
end Datagrid
