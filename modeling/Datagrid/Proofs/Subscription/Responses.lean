import Datagrid.Proofs.Subscription.Registrations
import Datagrid.Proofs.Subscription.Requests
import Datagrid.Proofs.Subscription.World

/-!
Responses: whoever waits for a registration understands the response that brings it,
and no such response comes that nobody waits for.
-/
namespace Datagrid
namespace System

variable {σ κ : Type} {language : Message → Order} {replies : RequestId → Option (Except Fault Message)}

/-- A request asks for a registration on a connection. -/
def Asks (sys : System σ κ) (language : Message → Order) (r : RequestId) (c : ConnectionId)
    (read : Message → Except Fault Uuid) : Prop :=
  ∃ m phase, sys.requests[r]? = some ⟨c, m, phase⟩ ∧ language m = .register read

/-- An activity at a stage reads the response it waits for as the member means it. -/
def Understands (sys : System σ κ) (language : Message → Order) : Stage σ κ → Prop
  | .subscribe listener _ => listener.Speaks language
  | .addRoute s _ _ _ m => ∀ sub, sys.subscription? s = some sub → language m = .register sub.listener.registration
  | .awaitRegistration s _ c _ r _ =>
    ∀ sub, sys.subscription? s = some sub → sys.Asks language r c sub.listener.registration
  | .release listener c r => listener.Speaks language ∧ sys.Asks language r c listener.registration
  | _ => True

/-- Responses find somebody who waits for them and understands them. -/
structure Attended (language : Message → Order) (replies : RequestId → Option (Except Fault Message))
    (sys : System σ κ) : Prop where
  sound : sys.Sound
  speaks : ∀ s sub, sys.subscription? s = some sub →
    sub.listener.Speaks language ∧ sub.listener.request = .ok sub.request
  stages : ∀ a stage, sys.stage? a = some stage → sys.Understands language stage
  alone : sys.Alone
  waited : ∀ r c read, sys.Asks language r c read → sys.reply? r = none → sys.Awaits r
  replied : ∀ r reply, sys.reply? r = some reply → replies r = some reply
  known : ∀ r reply, replies r = some reply → r < sys.requests.length
  wellFormed : ∀ r c read message, sys.Asks language r c read → replies r = some (.ok message) →
    ∃ id, read message = .ok id

section
variable {sys next : System σ κ} {a : ActivityId} {s : SubscriptionId} {sub now : Subscription σ κ}
  {stage later : Stage σ κ} {change : Change σ κ} {r : RequestId} {c : ConnectionId}
  {read : Message → Except Fault Uuid} {extra : List Request}

theorem Asks.more (asks : sys.Asks language r c read) (grown : next.requests = sys.requests ++ extra) :
    next.Asks language r c read := by
  obtain ⟨m, phase, there, order⟩ := asks
  refine ⟨m, phase, ?_, order⟩
  rw [grown, List.getElem?_append_left (List.getElem?_eq_some_iff.mp there).1]
  exact there

/-- A request that asks for a registration asked for it before, or is new. -/
theorem Asks.before (asks : next.Asks language r c read) (grown : next.requests = sys.requests ++ extra) :
    sys.Asks language r c read ∨
      (sys.requests.length ≤ r ∧ ∃ request ∈ extra, language request.message = .register read) := by
  obtain ⟨m, phase, there, order⟩ := asks
  rw [grown] at there
  by_cases old : r < sys.requests.length
  · rw [List.getElem?_append_left old] at there
    exact .inl ⟨m, phase, there, order⟩
  · have beyond := Nat.not_lt.mp old
    rw [List.getElem?_append_right beyond] at there
    exact .inr ⟨beyond, _, List.mem_of_getElem? there, order⟩

/-- A request that is new has not been answered. -/
theorem reply?_more (grown : next.requests = sys.requests ++ extra)
    (fresh : ∀ request ∈ extra, ∀ reply, request.phase ≠ .answered reply) : next.reply? r = sys.reply? r := by
  unfold reply?
  rw [grown]
  by_cases old : r < sys.requests.length
  · rw [List.getElem?_append_left old]
  · have beyond := Nat.not_lt.mp old
    rw [List.getElem?_append_right beyond, List.getElem?_eq_none beyond]
    split
    · next c m reply there => exact absurd rfl (fresh _ (List.mem_of_getElem? there) reply)
    · rfl

/-- What is understood stays so while listeners and requests do. -/
theorem Understands.mono (understands : sys.Understands language stage)
    (listeners : ∀ s, stage.subscription? = some s → ∀ now, next.subscription? s = some now →
      ∃ sub, sys.subscription? s = some sub ∧ now.listener = sub.listener)
    (asks : ∀ r c read, sys.Asks language r c read → next.Asks language r c read) :
    next.Understands language stage := by
  cases stage with
  | addRoute s p c k m =>
    intro now found
    obtain ⟨sub, before, same⟩ := listeners s rfl now found
    rw [same]
    exact understands sub before
  | awaitRegistration s p c k r late =>
    intro now found
    obtain ⟨sub, before, same⟩ := listeners s rfl now found
    rw [same]
    exact asks _ _ _ (understands sub before)
  | release listener c r => exact ⟨understands.1, asks _ _ _ understands.2⟩
  | subscribe => exact understands
  | _ => trivial

theorem Asks.unique {c' : ConnectionId} {read' : Message → Except Fault Uuid} (asks : sys.Asks language r c read)
    (asks' : sys.Asks language r c' read') : c = c' ∧ read = read' := by
  obtain ⟨m, phase, there, order⟩ := asks
  obtain ⟨m', phase', there', order'⟩ := asks'
  rw [there] at there'
  cases there'
  rw [order] at order'
  cases order'
  exact ⟨rfl, rfl⟩

theorem lt_of_asks (asks : sys.Asks language r c read) : r < sys.requests.length := by
  obtain ⟨m, phase, there, -⟩ := asks
  exact (List.getElem?_eq_some_iff.mp there).1

namespace Attended

variable (attended : Attended language replies sys)
include attended

/-- Whoever waits for a registration waits for what was asked for. -/
theorem asks_of_awaits? (here : sys.stage? a = some stage) (waits : stage.awaits? = some r) :
    ∃ c read, sys.Asks language r c read := by
  have understands := attended.stages a stage here
  cases stage <;> simp only [Stage.awaits?, Option.some.injEq, reduceCtorEq] at waits <;> subst waits
  case awaitRegistration s p c k q late =>
    obtain ⟨sub, found⟩ := subscription?_of_lt (attended.sound.about a _ s here rfl)
    exact ⟨c, _, understands sub found⟩
  case release listener c q => exact ⟨c, _, understands.2⟩

theorem not_awaits_new : ¬ sys.Awaits sys.requests.length := by
  rintro ⟨a, stage, here, waits⟩
  obtain ⟨c, read, asks⟩ := attended.asks_of_awaits? here waits
  exact Nat.lt_irrefl _ (lt_of_asks asks)

theorem not_replied_new : replies sys.requests.length = none := by
  cases replied : replies sys.requests.length with
  | none => rfl
  | some reply => exact absurd (attended.known _ _ replied) (Nat.lt_irrefl _)

end Attended

/-! ## Every step keeps responses attended -/

/-- The requests after a turn are those before it, with one more at most. -/
theorem Turn.requests_more (turn : Turn sys a s sub stage change) :
    ∃ extra, change.requests = sys.requests ++ extra ∧ ∀ request ∈ extra, ∀ reply, request.phase ≠ .answered reply := by
  rcases turn.requests_eq with same | ⟨p, c, k, m, -, -, sent⟩ | ⟨token, c, m, -, -, -, sent⟩
  · exact ⟨[], by simp [same], by simp⟩
  · exact ⟨_, sent, by simp⟩
  · exact ⟨_, sent, by simp⟩

theorem Errand.requests_more (errand : Errand sys a stage change) :
    ∃ extra, change.requests = sys.requests ++ extra ∧ ∀ request ∈ extra, ∀ reply, request.phase ≠ .answered reply := by
  rcases errand.requests_eq with same | ⟨c, m, -, -, sent⟩
  · exact ⟨[], by simp [same], by simp⟩
  · exact ⟨_, sent, by simp⟩

/-- What has to be so of a turn that keeps responses attended. -/
private theorem Attended.after (attended : Attended language replies sys)
    (sound : (sys.after a change).Sound) (grown : change.requests = sys.requests ++ extra)
    (fresh : ∀ request ∈ extra, ∀ reply, request.phase ≠ .answered reply)
    (listeners : ∀ t < sys.subscriptions.length, ∀ now, (sys.after a change).subscription? t = some now →
      ∃ sub, sys.subscription? t = some sub ∧ now.listener = sub.listener)
    (speaks : ∀ t now, (sys.after a change).subscription? t = some now →
      now.listener.Speaks language ∧ now.listener.request = .ok now.request)
    (comes : (sys.after a change).Understands language change.stage)
    (begins : ∀ begun ∈ change.started, (sys.after a change).Understands language begun)
    (alone : (sys.after a change).Alone)
    (waits : ∀ r c read, (sys.after a change).Asks language r c read → sys.reply? r = none →
      sys.Awaits r ∨ sys.requests.length ≤ r → (sys.after a change).Awaits r) :
    Attended language replies (sys.after a change) := by
  have reply (r) : (sys.after a change).reply? r = sys.reply? r := reply?_more grown fresh
  have asks (r c read) (asks : sys.Asks language r c read) : (sys.after a change).Asks language r c read :=
    asks.more grown
  refine ⟨sound, speaks, ?_, alone, ?_, ?_, ?_, ?_⟩
  · intro b later there
    rcases stage?_after_cases there with ⟨-, rfl⟩ | ⟨-, before⟩ | ⟨-, -, begun⟩
    · exact comes
    · refine (attended.stages b later before).mono ?_ asks
      intro t named
      exact listeners t (attended.sound.about b later t before named)
    · exact begins later begun
  · intro r c read asks unreplied
    rw [reply] at unreplied
    rcases asks.before grown with old | ⟨new, -⟩
    · exact waits r c read asks unreplied (.inl (attended.waited r c read old unreplied))
    · exact waits r c read asks unreplied (.inr new)
  · intro r reply' replied
    rw [reply] at replied
    exact attended.replied r reply' replied
  · intro r reply' replied
    refine Nat.lt_of_lt_of_le (attended.known r reply' replied) ?_
    simp [grown]
  · intro r c read message asks replied
    rcases asks.before grown with old | ⟨new, -⟩
    · exact attended.wellFormed r c read message old replied
    · exact absurd (attended.known r _ replied) (Nat.not_lt.mpr new)

/-- A subscription after a turn has the listener and the request that it had. -/
private theorem listener_after (turn : Turn sys a s sub stage change) (found : sys.subscription? s = some sub)
    {t : SubscriptionId} (there : (sys.after a change).subscription? t = some now) :
    ∃ before, sys.subscription? t = some before ∧ now.listener = before.listener ∧ now.request = before.request := by
  obtain ⟨now', put, listener, request⟩ := turn.listener_eq found
  by_cases same : t = s
  · subst same
    obtain rfl := Option.some.inj (there.symm.trans (subscription?_put put found))
    exact ⟨sub, found, listener, request⟩
  · rw [subscription?_put_of_ne put same] at there
    exact ⟨now, there, rfl, rfl⟩

private theorem Attended.comes (attended : Attended language replies sys) (here : sys.stage? a = some stage)
    (found : sys.subscription? s = some sub) (turn : Turn sys a s sub stage change) :
    (sys.after a change).Understands language change.stage := by
  obtain ⟨speaks, request⟩ := attended.speaks s sub found
  -- the request of a route is the listener's
  have adding {p c k m} (coming : change.stage = .addRoute s p c k m) :
      (sys.after a change).Understands language change.stage := by
    rw [coming]
    intro now there
    obtain ⟨before, found', same, -⟩ := listener_after turn found there
    obtain rfl := Option.some.inj (found'.symm.trans found)
    obtain ⟨-, set⟩ := turn.request_of_adding coming
    rw [same]
    exact speaks.request _ k m request set
  cases turn with
  | list token current set => exact adding rfl
  | installAgain ready set => exact adding rfl
  | addRoute p c k m =>
    intro now there
    obtain rfl := Option.some.inj (there.symm.trans found)
    have order := attended.stages a _ here now found
    exact ⟨m, .spawned, by simp, order⟩
  | _ => trivial

theorem Attended.deals (attended : Attended language replies sys) (found : sys.subscription? s = some sub)
    (turn : Turn sys a s sub stage change) :
    ∃ now, change.subscriptions = sys.subscriptions.set s now ∧ Deals sys s sub now stage change := by
  refine turn.deals found ?_
  intro id unsaid
  obtain ⟨m, sent, removal, set, -⟩ := (attended.speaks s sub found).1.removal id sys.nextCorrelation
  exact unsaid m sent removal set

theorem Attended.serves (attended : Attended language replies sys) (here : sys.stage? a = some stage)
    (errand : Errand sys a stage change) : sys.Serves stage change := by
  refine errand.serves ?_
  rintro listener c r id rfl unsaid
  obtain ⟨speaks, -⟩ := attended.stages a _ here
  obtain ⟨m, sent, removal, set, -⟩ := speaks.removal id sys.nextCorrelation
  exact unsaid m sent removal set

theorem Attended.turn (attended : Attended language replies sys) (here : sys.stage? a = some stage)
    (about : stage.subscription? = some s) (found : sys.subscription? s = some sub)
    (turn : Turn sys a s sub stage change) : Attended language replies (sys.after a change) := by
  have speaks := (attended.speaks s sub found).1
  obtain ⟨extra, grown, fresh⟩ := turn.requests_more
  obtain ⟨now, put, deals⟩ := attended.deals found turn
  refine attended.after (attended.sound.turn here about found turn) grown fresh ?_ ?_
    (attended.comes here found turn) ?_ ?_ ?_
  · intro t _ now there
    obtain ⟨before, found', same, -⟩ := listener_after turn found there
    exact ⟨before, found', same⟩
  · intro t now there
    obtain ⟨before, found', same, request⟩ := listener_after turn found there
    rw [same, request]
    exact attended.speaks t before found'
  · intro begun started
    rcases turn.waits with ⟨began, -⟩ | ⟨began, -⟩ | ⟨p, c, k, r, late, rfl, -, began, -⟩
    · simp [began] at started
    · simp [began] at started
    · rw [began] at started
      obtain rfl := List.mem_singleton.mp started
      exact ⟨speaks, (attended.stages a _ here sub found).more grown⟩
  · exact attended.alone.turn attended.not_awaits_new here turn
  · intro r c read asks unreplied waited
    rw [awaits_after here]
    rcases waited with ⟨b, later, before, waits⟩ | new
    · by_cases own : b = a
      · subst own
        obtain rfl := Option.some.inj (here.symm.trans before)
        -- it goes on without the response, and another waits for it
        cases deals with
        | abandons p c k q late fault same coming began =>
          subst same
          exact .inr (.inr ⟨.release sub.listener c q, by simp [began], waits⟩)
        | loses p c k q late reply fault same replied =>
          subst same
          obtain rfl := Option.some.inj waits
          simp [replied] at unreplied
        | registers p c k q late reply id same replied =>
          subst same
          obtain rfl := Option.some.inj waits
          simp [replied] at unreplied
        | asks _ _ _ _ same => simp [same, Stage.awaits?] at waits
        | undoes _ _ _ same => simp [same, Stage.awaits?] at waits
        | stays none => simp [none] at waits
        | removes _ _ _ _ _ none => simp [none] at waits
        | forgoes none => simp [none] at waits
      · exact .inr (.inl ⟨b, later, own, before, waits⟩)
    · have bound : r < change.requests.length := lt_of_asks asks
      have still (same : change.requests = sys.requests) : False :=
        Nat.lt_irrefl _ (Nat.lt_of_lt_of_le (same ▸ bound) new)
      cases deals with
      | asks p c' k m _ coming _ sent =>
        simp only [sent, List.length_append, List.length_singleton] at bound
        obtain rfl := Nat.le_antisymm (Nat.le_of_lt_succ bound) new
        exact .inl (by rw [coming]; rfl)
      | removes c' id m message k _ _ _ removal set _ _ sent =>
        have order := speaks.order_of_removal removal set
        rcases asks.before sent with old | ⟨-, request, added, asked⟩
        · exact absurd (lt_of_asks old) (Nat.not_lt.mpr new)
        · obtain rfl := List.mem_singleton.mp added
          simp [order] at asked
      | abandons _ _ _ _ _ _ _ _ _ same => exact (still same).elim
      | loses _ _ _ _ _ _ _ _ _ _ _ _ same => exact (still same).elim
      | registers _ _ _ _ _ _ _ _ _ _ _ _ same => exact (still same).elim
      | undoes _ _ _ _ _ _ same => exact (still same).elim
      | stays _ _ _ same => exact (still same).elim
      | forgoes _ _ _ same => exact (still same).elim

private theorem understands_of_alone (alone : stage.awaits? = none) (engaged : stage.engages? = none)
    (asking : ∀ listener token, stage ≠ .subscribe listener token) : sys.Understands language stage := by
  cases stage with
  | subscribe listener token => exact absurd rfl (asking listener token)
  | addRoute => simp [Stage.engages?] at engaged
  | awaitRegistration => simp [Stage.awaits?] at alone
  | release => simp [Stage.awaits?] at alone
  | _ => trivial

theorem Errand.not_asking (errand : Errand sys a stage change) (listener : Listener σ κ) (token : Option TokenId) :
    change.stage ≠ .subscribe listener token ∧ ∀ begun ∈ change.started, begun ≠ .subscribe listener token := by
  cases errand <;> simp [waiting]

theorem Attended.errand (attended : Attended language replies sys) (here : sys.stage? a = some stage)
    (errand : Errand sys a stage change) (sound : (sys.after a change).Sound) :
    Attended language replies (sys.after a change) := by
  obtain ⟨extra, grown, fresh⟩ := errand.requests_more
  have serves := attended.serves here errand
  have idle := errand.idle
  refine attended.after sound grown fresh ?_ ?_ ?_ ?_ (attended.alone.errand here errand) ?_
  · intro t bound now there
    rcases errand.subscription?_cases there with before | ⟨rfl, -⟩
    · exact ⟨now, before, rfl⟩
    · exact absurd bound (Nat.lt_irrefl _)
  · intro t now there
    rcases errand.subscription?_cases there with before | ⟨-, listener, token, request, rfl, asked, rfl⟩
    · exact attended.speaks t now before
    · exact ⟨attended.stages a _ here, asked⟩
  · rcases errand.quiet with quiet | ⟨listener, token, request, rfl, rfl, -⟩
    · exact understands_of_alone idle.1 quiet.leaves fun listener token => (errand.not_asking listener token).1
    · trivial
  · intro begun started
    rcases errand.quiet with quiet | ⟨listener, token, request, rfl, rfl, -⟩
    · exact understands_of_alone (idle.2 begun started) (quiet.started begun started)
        fun listener token => (errand.not_asking listener token).2 begun started
    · simp at started
  · intro r c read asks unreplied waited
    rw [awaits_after here]
    rcases waited with ⟨b, later, before, waits⟩ | new
    · refine .inr (.inl ⟨b, later, ?_, before, waits⟩)
      rintro rfl
      obtain rfl := Option.some.inj (here.symm.trans before)
      cases serves with
      | stays none => simp [none] at waits
      | drops listener c q reply fault same replied =>
        subst same
        obtain rfl := Option.some.inj waits
        simp [replied] at unreplied
      | releases listener c q reply id m message k same replied =>
        subst same
        obtain rfl := Option.some.inj waits
        simp [replied] at unreplied
    · have bound : r < change.requests.length := lt_of_asks asks
      have still (same : change.requests = sys.requests) : False :=
        Nat.lt_irrefl _ (Nat.lt_of_lt_of_le (same ▸ bound) new)
      cases serves with
      | stays _ _ _ same => exact (still same).elim
      | drops _ _ _ _ _ _ _ _ _ _ same => exact (still same).elim
      | releases listener c' q reply id m message k same _ _ removal set _ _ sent =>
        subst same
        have order := (attended.stages a _ here).1.order_of_removal removal set
        rcases asks.before sent with old | ⟨-, request, added, asked⟩
        · exact absurd (lt_of_asks old) (Nat.not_lt.mpr new)
        · obtain rfl := List.mem_singleton.mp added
          simp [order] at asked

/-- A request that gets on is answered when it gets an answer, and has none before. -/
private theorem reply?_of_set {q : RequestId} {request : Request} (phase : RequestPhase)
    (found : sys.requests[q]? = some request) (unanswered : ∀ reply, request.phase ≠ .answered reply) :
    (∀ r reply, sys.reply? r = some reply →
        System.reply? { sys with requests := sys.requests.set q { request with phase } } r = some reply) ∧
      ∀ r reply, System.reply? { sys with requests := sys.requests.set q { request with phase } } r = some reply →
        sys.reply? r = some reply ∨ (r = q ∧ phase = .answered reply) := by
  have other (r) (apart : r ≠ q) : System.reply? { sys with
      requests := sys.requests.set q { request with phase } } r = sys.reply? r := by
    simp [reply?, List.getElem?_set_ne (Ne.symm apart)]
  have bound := (List.getElem?_eq_some_iff.mp found).1
  refine ⟨?_, ?_⟩
  · intro r reply replied
    by_cases own : r = q
    · subst own
      obtain ⟨c, m, phase'⟩ := request
      cases phase' with
      | answered reply' => exact absurd rfl (unanswered reply')
      | _ => simp [reply?, found] at replied
    · rw [other r own]
      exact replied
  · intro r reply replied
    by_cases own : r = q
    · subst own
      refine .inr ⟨rfl, ?_⟩
      cases phase with
      | answered reply' => simpa [reply?, bound] using replied
      | _ => simp [reply?, bound] at replied
    · rw [other r own] at replied
      exact .inl replied

/-- What has been answered stays answered, and only the transport answers. -/
theorem reply?_of_step {move : Move σ κ} (taken : sys.step? move = some next)
    (idle : ∀ a, move ≠ .proceed a) :
    (∀ r reply, sys.reply? r = some reply → next.reply? r = some reply) ∧
      ∀ r reply, next.reply? r = some reply → sys.reply? r = some reply ∨ move = .answer r reply := by
  cases stirs_of_step taken idle with
  | sends found spawned =>
    obtain ⟨kept, came⟩ := reply?_of_set .sent found (by simp [spawned])
    refine ⟨kept, ?_⟩
    intro r reply replied
    rcases came r reply replied with before | ⟨-, ⟨⟩⟩
    exact .inl before
  | answers reply found sent =>
    obtain ⟨kept, came⟩ := reply?_of_set (.answered reply) found (by simp [sent])
    refine ⟨kept, ?_⟩
    intro r reply replied
    rcases came r reply replied with before | ⟨rfl, ⟨⟩⟩
    · exact .inl before
    · exact .inr rfl
  | _ => exact ⟨fun r reply replied => replied, fun r reply replied => .inl replied⟩

theorem Drifts.asks_iff (drifts : sys.Drifts next) : next.Asks language r c read ↔ sys.Asks language r c read := by
  constructor
  · rintro ⟨m, phase, there, order⟩
    have bound : r < sys.requests.length := drifts.total ▸ (List.getElem?_eq_some_iff.mp there).1
    obtain ⟨phase', same⟩ := drifts.requests r _ (List.getElem?_eq_getElem bound)
    rw [same] at there
    cases Option.some.inj there
    exact ⟨_, sys.requests[r].phase, List.getElem?_eq_getElem bound, order⟩
  · rintro ⟨m, phase, there, order⟩
    obtain ⟨phase', same⟩ := drifts.requests r _ there
    exact ⟨m, phase', same, order⟩

/-- Whoever is new has just begun. -/
theorem begun_of_step {move : Move σ κ} (taken : sys.step? move = some next) (idle : ∀ a, move ≠ .proceed a)
    (none : sys.stage? a = none) (there : next.stage? a = some later) :
    ∃ beginning, move = .begin beginning ∧ later = beginning.stage := by
  have still (same : next.activities.length = sys.activities.length) : False := by
    have bound := lt_of_stage? there
    rw [same] at bound
    rw [stage?, List.getElem?_eq_getElem bound] at none
    cases none
  cases stirs_of_step taken idle with
  | begins beginning =>
    rcases stage?_begin_cases there with before | ⟨-, -, same⟩
    · cases none.symm.trans before
    · exact ⟨beginning, rfl, same⟩
  | shifts => exact (still (by simp [become])).elim
  | _ => exact (still (by simp)).elim

theorem Attended.drifts {move : Move σ κ} (attended : Attended language replies sys)
    (taken : sys.step? move = some next) (idle : ∀ a, move ≠ .proceed a)
    (begins : ∀ listener token, move = .begin (.subscribe listener token) → listener.Speaks language)
    (answers : ∀ r reply, move = .answer r reply → replies r = some reply) :
    Attended language replies next := by
  have drifts := drifts_of_step taken idle
  obtain ⟨kept, came⟩ := reply?_of_step taken idle
  have listeners (t) (now : Subscription σ κ) (there : next.subscription? t = some now) :
      sys.subscription? t = some now := by
    unfold subscription? at there ⊢
    rw [← drifts.subscriptions]
    exact there
  refine ⟨attended.sound.drifts drifts, ?_, ?_, attended.alone.drifts drifts, ?_, ?_, ?_, ?_⟩
  · intro t now there
    exact attended.speaks t now (listeners t now there)
  · intro b later there
    cases before : sys.stage? b with
    | some stage =>
      obtain ⟨later', there', drift⟩ := drifts.old b stage before
      obtain rfl := Option.some.inj (there.symm.trans there')
      have understands : next.Understands language stage :=
        (attended.stages b stage before).mono (fun t _ now found => ⟨now, listeners t now found, rfl⟩)
          fun r c read asks => drifts.asks_iff.mpr asks
      cases drift with
      | lateRegistration => exact understands
      | same => exact understands
      | _ => trivial
    | none =>
      obtain ⟨beginning, rfl, rfl⟩ := begun_of_step taken idle before there
      cases beginning with
      | subscribe listener token => exact begins listener token rfl
      | _ => trivial
  · intro r c read asks unreplied
    refine drifts.awaits_iff.mpr (attended.waited r c read (drifts.asks_iff.mp asks) ?_)
    cases replied : sys.reply? r with
    | none => rfl
    | some reply => simp [kept r reply replied] at unreplied
  · intro r reply replied
    rcases came r reply replied with before | answer
    · exact attended.replied r reply before
    · exact answers r reply answer
  · intro r reply replied
    rw [drifts.total]
    exact attended.known r reply replied
  · intro r c read message asks replied
    exact attended.wellFormed r c read message (drifts.asks_iff.mp asks) replied

theorem Attended.step {move : Move σ κ} (attended : Attended language replies sys)
    (taken : sys.step? move = some next)
    (begins : ∀ listener token, move = .begin (.subscribe listener token) → listener.Speaks language)
    (answers : ∀ r reply, move = .answer r reply → replies r = some reply) :
    Attended language replies next := by
  by_cases turns : ∃ a, move = .proceed a
  · obtain ⟨a, rfl⟩ := turns
    have sound := attended.sound.step taken
    obtain ⟨stage, change, here, rfl, ⟨s, sub, about, found, turn⟩ | ⟨-, errand⟩⟩ := after_of_proceed taken
    · exact attended.turn here about found turn
    · exact attended.errand here errand sound
  · exact attended.drifts taken (by simpa using turns) begins answers

/-- Whoever waits for a response that is certain has waited before, and goes on waiting. -/
theorem Attended.waits_of_step {move : Move σ κ} {b : ActivityId} {p : Purpose} {k : Int64} {late : Bool}
    {reply : Except Fault Message} (attended : Attended language replies sys) (taken : sys.step? move = some next)
    (there : next.stage? b = some (.awaitRegistration s p c k r late)) (certain : replies r = some reply) :
    move ≠ .proceed b ∧ ∃ late, sys.stage? b = some (.awaitRegistration s p c k r late) := by
  rcases stage?_of_step taken there with
    ⟨stage, change, rfl, here, rfl, same, kind⟩ | ⟨other, stage, before, drift⟩ | ⟨-, begins⟩
  · exfalso
    rcases kind with ⟨t, sub, -, found, turn⟩ | ⟨-, errand⟩
    · rcases turn.waits with ⟨-, leaves⟩ | ⟨-, -, _, _, _, _, -, coming, -⟩ | ⟨_, _, _, _, _, -, leaves, -⟩
      · simp [← same, Stage.awaits?] at leaves
      · rw [coming] at same
        cases same
        simp [attended.not_replied_new] at certain
      · simp [← same, Stage.awaits?] at leaves
    · rcases errand.quiet with quiet | ⟨_, _, _, rfl, rfl, -⟩
      · have leaves := quiet.leaves
        simp [← same, Stage.engages?] at leaves
      · cases same
  · refine ⟨other, ?_⟩
    cases drift with
    | same => exact ⟨late, before⟩
    | lateRegistration => exact ⟨_, before⟩
  · have leaves := begins.engages?
    simp [Stage.engages?] at leaves

/-- It is certain what is answered to a request. -/
theorem Attended.reply {m : Message} {reply : Except Fault Message} (attended : Attended language replies sys)
    (there : sys.requests[r]? = some ⟨c, m, .sent⟩)
    (fits : ∀ read answer, language m = .register read → reply = .ok answer → ∃ id, read answer = .ok id) :
    Attended language (fun q => if q = r then some reply else replies q) sys := by
  refine ⟨attended.sound, attended.speaks, attended.stages, attended.alone, attended.waited, ?_, ?_, ?_⟩
  · intro q reply' replied
    have other : q ≠ r := by
      rintro rfl
      simp [reply?, there] at replied
    rw [if_neg other]
    exact attended.replied q reply' replied
  · intro q reply' replied
    by_cases own : q = r
    · rw [own]
      exact (List.getElem?_eq_some_iff.mp there).1
    · rw [if_neg own] at replied
      exact attended.known q reply' replied
  · intro q c' read message asks replied
    by_cases own : q = r
    · subst own
      rw [if_pos rfl] at replied
      obtain ⟨m', phase, there', order⟩ := asks
      obtain rfl : m = m' := by
        rw [there] at there'
        cases there'
        rfl
      exact fits read message order (Option.some.inj replied)
    · rw [if_neg own] at replied
      exact attended.wellFormed q c' read message asks replied

theorem attended_new (limit : Timespan) (surroundings : σ) :
    Attended language (fun _ => none) (System.new limit surroundings : System σ κ) := by
  refine ⟨sound_new limit surroundings, ?_, ?_, ?_, ?_, ?_, ?_, ?_⟩
  · intro s sub found
    simp [System.new, subscription?] at found
  · intro a stage here
    simp [System.new, stage?] at here
  · intro a b stage later r here
    simp [System.new, stage?] at here
  · rintro r c read ⟨m, phase, there, -⟩
    simp [System.new] at there
  · intro r reply replied
    simp [System.new, reply?] at replied
  · simp
  · rintro r c read message ⟨m, phase, there, -⟩
    simp [System.new] at there

end
end System

namespace World

variable {σ κ : Type} {language : Message → Order} {limit : Timespan} {surroundings : σ} {capacity : Nat}
  {past : List (Step (World σ κ) (Act σ κ))} {w : World σ κ}

/-- Whoever has subscribed so far speaks the language of the member. -/
def Fluent (language : Message → Order) (past : List (Step (World σ κ) (Act σ κ))) : Prop :=
  ∀ e ∈ past, ∀ listener token, e.move = .own (.begin (.subscribe listener token)) → listener.Speaks language

theorem Fluent.before {e : Step (World σ κ) (Act σ κ)} (fluent : Fluent language (past ++ [e])) :
    Fluent language past :=
  fun e' there => fluent e' (List.mem_append_left _ there)

/-- Responses are attended at any time. -/
theorem attended_of_past (run : Past (step? language) (start limit surroundings capacity) past w)
    (fluent : Fluent language past) : System.Attended language w.replies w.system := by
  induction run with
  | start =>
    have attended : System.Attended language (fun _ => none) (System.new limit surroundings : System σ κ) :=
      System.attended_new limit surroundings
    have taken : (System.new limit surroundings : System σ κ).step? (.begin (.listen capacity)) =
        some (start limit surroundings capacity).system := rfl
    exact attended.step taken (by simp) (by simp)
  | @step past now next act run taken ih =>
    have attended := ih fluent.before
    cases happens_of_step taken with
    | own mine moved =>
      refine attended.step moved ?_ ?_
      · rintro listener token rfl
        exact fluent _ List.mem_concat_self listener token rfl
      · rintro r reply rfl
        simp [Move.isTransport] at mine
    | use moved => exact attended.step moved (by simp) (by simp)
    | publish _ _ moved => exact attended.step moved (by simp) (by simp)
    | deliver replied moved =>
      refine attended.step moved (by simp) ?_
      rintro r reply same
      cases same
      exact replied
    | register there _ _ order read =>
      refine attended.reply there ?_
      rintro read' answer order' rfl
      rw [order] at order'
      cases order'
      exact ⟨_, read⟩
    | remove reply there _ _ order => exact attended.reply there (by simp [order])
    | other reply there _ _ order => exact attended.reply there (by simp [order])
    | refuse cause there => exact attended.reply there (by simp)
    | connect => exact attended
    | disconnect => exact attended

theorem aimed_of_past (run : Past (step? language) (start limit surroundings capacity) past w)
    (fluent : Fluent language past) : w.system.Aimed := by
  induction run with
  | start =>
    intro a stage s sub c former here about aims found
    simp [start, System.new, System.begin, System.subscription?] at found
  | @step past now next act run taken ih =>
    have aimed := ih fluent.before
    rcases (happens_of_step taken).system with same | ⟨move, moved⟩
    · rw [same]
      exact aimed
    · exact aimed.step (attended_of_past run fluent.before).sound moved

end World
end Datagrid
