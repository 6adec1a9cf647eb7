import Datagrid.Proofs.Subscription.Responses

/-!
Keepers: whoever sees to it that a registration is taken off in the end. It is kept by a
subscription that has it on record, by a response under way that somebody waits for, by a
request for its removal, or by nobody, once it is forgotten. Every registration that the
member holds on the open connection has one keeper and no other.
-/
namespace Datagrid

variable {σ κ : Type}

namespace System

/-- A subscription has a registration on record. -/
def Records (sys : System σ κ) (s : SubscriptionId) (c : ConnectionId) (id : Uuid) : Prop :=
  ∃ sub, sys.subscription? s = some sub ∧ sub.registration.connection = some c ∧ sub.registration.id = some id

/-- A registration that another has been granted in the place of is not on the open
    connection. -/
def Superseded (replies : RequestId → Option (Except Fault Message)) (live : Option ConnectionId)
    (sys : System σ κ) : Prop :=
  ∀ a s p c k r late sub former answer, sys.stage? a = some (.awaitRegistration s p c k r late) →
    sys.subscription? s = some sub → sub.registration.connection = some former →
    replies r = some (.ok answer) → live ≠ some former

section
variable {language : Message → Order} {replies : RequestId → Option (Except Fault Message)}
  {live : Option ConnectionId} {sys next : System σ κ}

theorem Superseded.step {move : Move σ κ} (superseded : sys.Superseded replies live)
    (attended : Attended language replies sys) (taken : sys.step? move = some next) :
    next.Superseded replies live := by
  intro b t p c k r late now former answer there found' connected granted
  obtain ⟨other, late, before⟩ := attended.waits_of_step taken there granted
  obtain ⟨old, found, same⟩ := registration_of_step attended.sound taken other before rfl (by simp) found'
  exact superseded b t p c k r late old former answer before found (same ▸ connected) granted

end
end System

namespace World

/-- What is answered to a request is a registration. -/
def Grants (language : Message → Order) (w : World σ κ) (r : RequestId) (c : ConnectionId) (id : Uuid) : Prop :=
  ∃ read reply, w.system.Asks language r c read ∧ w.replies r = some reply ∧ reply.bind read = .ok id

/-- A request asks to take a registration off, and has not been answered. -/
def Removes (language : Message → Order) (w : World σ κ) (r : RequestId) (c : ConnectionId) (id : Uuid) : Prop :=
  ∃ m phase, w.system.requests[r]? = some ⟨c, m, phase⟩ ∧ language m = .remove id ∧ w.replies r = none

/-- Who can keep a registration. -/
inductive Keeper where
  | subscription (s : SubscriptionId)
  | response (r : RequestId)
  | removal (r : RequestId)
  | nobody

/-- Who keeps a registration. -/
def Keeps (language : Message → Order) (past : List (Step (World σ κ) (Act σ κ))) (w : World σ κ)
    (c : ConnectionId) (id : Uuid) : Keeper → Prop
  | .subscription s => w.system.Records s c id
  | .response r => w.system.Awaits r ∧ w.Grants language r c id
  | .removal r => w.Removes language r c id
  | .nobody => ∃ e ∈ past, Forgets e c id

/-- The member's accounts: what it holds has a keeper, and one only. -/
structure Accounts (language : Message → Order) (past : List (Step (World σ κ) (Act σ κ))) (w : World σ κ) :
    Prop where
  given : ∀ c id k, Keeps language past w c id k → c < w.connections ∧ id ∈ w.given
  single : ∀ c c' id k k', Keeps language past w c id k → Keeps language past w c' id k' → c = c' ∧ k = k'
  held : ∀ c, w.live = some c → ∀ id, id ∈ w.held ↔ ∃ k, Keeps language past w c id k
  closed : w.live = none → w.held = []
  opened : ∀ c, w.live = some c → c < w.connections
  superseded : w.system.Superseded w.replies w.live

section
variable {language : Message → Order} {past past' : List (Step (World σ κ) (Act σ κ))} {w next : World σ κ}
  {c : ConnectionId} {id : Uuid}

/-- All keepers keep what they kept, unless one hands it to another. -/
private theorem Accounts.transfer (accounts : Accounts language past w) (giver taker : Keeper)
    (live : next.live = w.live) (held : next.held = w.held) (given : next.given = w.given)
    (connections : next.connections = w.connections)
    (back : ∀ c id k, Keeps language past' next c id k →
      (Keeps language past w c id k ∧ k ≠ giver) ∨ (k = taker ∧ Keeps language past w c id giver))
    (forth : ∀ c id k, w.live = some c → Keeps language past w c id k →
      (k ≠ giver ∧ Keeps language past' next c id k) ∨ (k = giver ∧ Keeps language past' next c id taker))
    (superseded : next.system.Superseded next.replies next.live) :
    Accounts language past' next := by
  refine ⟨?_, ?_, ?_, ?_, ?_, superseded⟩
  · intro c id k keeps
    rw [connections, given]
    rcases back c id k keeps with ⟨before, -⟩ | ⟨-, before⟩
    · exact accounts.given c id k before
    · exact accounts.given c id giver before
  · intro c c' id k k' keeps keeps'
    rcases back c id k keeps with ⟨before, other⟩ | ⟨rfl, before⟩
    · rcases back c' id k' keeps' with ⟨before', -⟩ | ⟨rfl, before'⟩
      · exact accounts.single c c' id k k' before before'
      · exact absurd (accounts.single c c' id k giver before before').2 other
    · rcases back c' id k' keeps' with ⟨before', other⟩ | ⟨rfl, before'⟩
      · exact absurd (accounts.single c c' id giver k' before before').2.symm other
      · exact ⟨(accounts.single c c' id giver giver before before').1, rfl⟩
  · intro c open' id
    rw [live] at open'
    rw [held, accounts.held c open' id]
    constructor
    · rintro ⟨k, keeps⟩
      rcases forth c id k open' keeps with ⟨-, later⟩ | ⟨-, later⟩
      · exact ⟨k, later⟩
      · exact ⟨taker, later⟩
    · rintro ⟨k, keeps⟩
      rcases back c id k keeps with ⟨before, -⟩ | ⟨-, before⟩
      · exact ⟨k, before⟩
      · exact ⟨giver, before⟩
  · rw [live, held]
    exact accounts.closed
  · rw [live, connections]
    exact accounts.opened

theorem Accounts.still (accounts : Accounts language past w)
    (live : next.live = w.live) (held : next.held = w.held) (given : next.given = w.given)
    (connections : next.connections = w.connections)
    (back : ∀ c id k, Keeps language past' next c id k → Keeps language past w c id k)
    (forth : ∀ c id k, w.live = some c → Keeps language past w c id k → Keeps language past' next c id k)
    (superseded : next.system.Superseded next.replies next.live) : Accounts language past' next := by
  refine accounts.transfer .nobody .nobody live held given connections ?_ ?_ superseded
  · intro c id k later
    by_cases same : k = .nobody
    · subst same
      exact .inr ⟨rfl, back c id _ later⟩
    · exact .inl ⟨back c id k later, same⟩
  · intro c id k live before
    by_cases same : k = .nobody
    · subst same
      exact .inr ⟨rfl, forth c id _ live before⟩
    · exact .inl ⟨same, forth c id k live before⟩

theorem forgotten_concat {e : Step (World σ κ) (Act σ κ)} :
    (∃ e' ∈ past ++ [e], Forgets e' c id) ↔ (∃ e' ∈ past, Forgets e' c id) ∨ Forgets e c id := by
  simp [or_and_right, exists_or]

theorem forgotten_still {e : Step (World σ κ) (Act σ κ)} (remembers : ¬ Forgets e c id) :
    Keeps language (past ++ [e]) next c id .nobody ↔ Keeps language past e.before c id .nobody := by
  rw [Keeps, forgotten_concat, or_iff_left remembers]
  rfl

theorem grants_of_reply {q : RequestId} {c' : ConnectionId} {read : Message → Except Fault Uuid}
    {reply : Except Fault Message} (asks : w.system.Asks language q c read) (replied : w.replies q = some reply) :
    w.Grants language q c' id ↔ c' = c ∧ reply.bind read = .ok id := by
  constructor
  · rintro ⟨read', reply', asks', replied', granted⟩
    obtain ⟨rfl, rfl⟩ := asks.unique asks'
    obtain rfl := Option.some.inj (replied.symm.trans replied')
    exact ⟨rfl, granted⟩
  · rintro ⟨rfl, granted⟩
    exact ⟨read, reply, asks, replied, granted⟩

/-! ## What a turn does for the keepers -/

variable {a : ActivityId} {s t : SubscriptionId} {r : RequestId} {sub now : Subscription σ κ} {stage : Stage σ κ}
  {change : Change σ κ} {extra : List Request}

/-- The world after a turn of an activity. -/
@[simps]
def after (w : World σ κ) (a : ActivityId) (change : Change σ κ) : World σ κ :=
  { w with system := w.system.after a change }

theorem records_put (put : change.subscriptions = w.system.subscriptions.set s now)
    (found : w.system.subscription? s = some sub) : (w.after a change).system.Records t c id ↔
      (t = s ∧ now.registration.connection = some c ∧ now.registration.id = some id) ∨
        (t ≠ s ∧ w.system.Records t c id) := by
  by_cases same : t = s
  · subst same
    simp [System.Records, System.subscription?_put put found]
  · simp [System.Records, System.subscription?_put_of_ne put same, same]

theorem records_still (put : change.subscriptions = w.system.subscriptions.set s now)
    (found : w.system.subscription? s = some sub)
    (same : now.registration.connection = some c ∧ now.registration.id = some id ↔
      sub.registration.connection = some c ∧ sub.registration.id = some id) :
    (w.after a change).system.Records t c id ↔ w.system.Records t c id := by
  rw [records_put put found, same]
  by_cases own : t = s
  · subst own
    simp [System.Records, found]
  · simp [own]

/-- No registration is granted by a request that is new. -/
theorem grants_after (attended : System.Attended language w.replies w.system)
    (grown : change.requests = w.system.requests ++ extra) :
    (w.after a change).Grants language r c id ↔ w.Grants language r c id := by
  constructor
  · rintro ⟨read, reply, asks, replied, granted⟩
    rcases asks.before grown with old | ⟨new, -⟩
    · exact ⟨read, reply, old, replied, granted⟩
    · exact absurd (attended.known r reply replied) (Nat.not_lt.mpr new)
  · rintro ⟨read, reply, asks, replied, granted⟩
    exact ⟨read, reply, asks.more grown, replied, granted⟩

private theorem removes_cases (grown : change.requests = w.system.requests ++ extra) :
    (w.after a change).Removes language r c id ↔ w.Removes language r c id ∨
      (w.replies r = none ∧ ∃ m phase, language m = .remove id ∧ w.system.requests.length ≤ r ∧
        extra[r - w.system.requests.length]? = some ⟨c, m, phase⟩) := by
  constructor
  · rintro ⟨m, phase, there, order, unreplied⟩
    have there : change.requests[r]? = some ⟨c, m, phase⟩ := there
    rw [grown] at there
    by_cases old : r < w.system.requests.length
    · rw [List.getElem?_append_left old] at there
      exact .inl ⟨m, phase, there, order, unreplied⟩
    · rw [List.getElem?_append_right (Nat.not_lt.mp old)] at there
      exact .inr ⟨unreplied, m, phase, order, Nat.not_lt.mp old, there⟩
  · rintro (⟨m, phase, there, order, unreplied⟩ | ⟨unreplied, m, phase, order, beyond, there⟩)
    · refine ⟨m, phase, ?_, order, unreplied⟩
      show change.requests[r]? = _
      rw [grown, List.getElem?_append_left (List.getElem?_eq_some_iff.mp there).1]
      exact there
    · refine ⟨m, phase, ?_, order, unreplied⟩
      show change.requests[r]? = _
      rw [grown, List.getElem?_append_right beyond]
      exact there

theorem removes_still (grown : change.requests = w.system.requests ++ extra)
    (others : ∀ request ∈ extra, ∀ id, language request.message ≠ .remove id) :
    (w.after a change).Removes language r c id ↔ w.Removes language r c id := by
  rw [removes_cases grown, or_iff_left_iff_imp]
  rintro ⟨-, m, phase, order, -, there⟩
  exact absurd order (others _ (List.mem_of_getElem? there) id)

/-- One more request asks to take a registration off. -/
theorem removes_more {m : Message} {phase : RequestPhase} {former : ConnectionId} {id' : Uuid}
    (attended : System.Attended language w.replies w.system)
    (grown : change.requests = w.system.requests ++ [⟨former, m, phase⟩]) (order : language m = .remove id') :
    (w.after a change).Removes language r c id ↔ w.Removes language r c id ∨
      (r = w.system.requests.length ∧ c = former ∧ id = id') := by
  rw [removes_cases grown]
  refine or_congr_right ?_
  constructor
  · rintro ⟨-, m', phase', order', beyond, there⟩
    obtain ⟨bound, same⟩ := List.getElem?_eq_some_iff.mp there
    have last : r - w.system.requests.length = 0 := Nat.le_zero.mp (Nat.le_of_lt_succ bound)
    simp only [last, List.getElem_cons_zero, Request.mk.injEq] at same
    obtain ⟨rfl, rfl, -⟩ := same
    rw [order, Order.remove.injEq] at order'
    exact ⟨Nat.le_antisymm (Nat.le_of_sub_eq_zero last) beyond, rfl, order'.symm⟩
  · rintro ⟨rfl, rfl, rfl⟩
    exact ⟨attended.not_replied_new, m, phase, order, Nat.le_refl _, by simp⟩

theorem Accounts.calm {e : Step (World σ κ) (Act σ κ)} (accounts : Accounts language past w)
    (live : next.live = w.live) (held : next.held = w.held) (given : next.given = w.given)
    (connections : next.connections = w.connections)
    (records : ∀ s c id, next.system.Records s c id ↔ w.system.Records s c id)
    (brings : ∀ r c id, next.system.Awaits r ∧ next.Grants language r c id ↔
      w.system.Awaits r ∧ w.Grants language r c id)
    (removes : ∀ r c id, next.Removes language r c id ↔ w.Removes language r c id)
    (remembers : ∀ c id, ¬ Forgets e c id) (superseded : next.system.Superseded next.replies next.live) :
    Accounts language (past ++ [e]) next := by
  have keeps (c) (id) (k) : Keeps language (past ++ [e]) next c id k ↔ Keeps language past w c id k := by
    cases k with
    | subscription s => exact records s c id
    | response r => exact brings r c id
    | removal r => exact removes r c id
    | nobody => exact forgotten_still (remembers c id)
  exact accounts.still live held given connections (fun c id k => (keeps c id k).mp)
    (fun c id k _ => (keeps c id k).mpr) superseded

/-- Whoever goes on with a response waits for it no longer. -/
private theorem brings_over {q : RequestId} (attended : System.Attended language w.replies w.system)
    (here : w.system.stage? a = some stage) (waited : stage.awaits? = some q) (leaves : change.stage.awaits? = none)
    (began : change.started = []) (grown : change.requests = w.system.requests ++ extra) :
    (w.after a change).system.Awaits r ∧ (w.after a change).Grants language r c id ↔
      r ≠ q ∧ w.system.Awaits r ∧ w.Grants language r c id := by
  rw [grants_after attended grown, after_system, System.awaits_over attended.alone here waited leaves began,
    and_assoc, and_left_comm, and_comm]

/-- A response that is no registration brings none. -/
private theorem brings_none {q : RequestId} {c' : ConnectionId} {read : Message → Except Fault Uuid}
    {reply : Except Fault Message} {fault : Fault} (asks : w.system.Asks language q c' read)
    (replied : w.replies q = some reply) (unread : reply.bind read = .error fault) :
    r ≠ q ∧ w.system.Awaits r ∧ w.Grants language r c id ↔ w.system.Awaits r ∧ w.Grants language r c id := by
  rw [and_iff_right_iff_imp]
  rintro ⟨-, grants⟩ rfl
  simp [grants_of_reply asks replied, unread] at grants

private theorem remembers (here : w.system.stage? a = some stage)
    (apart : ∀ s k fault, stage ≠ .removeRoute s .again k fault) :
    ¬ Forgets ⟨w, .own (.proceed a), next⟩ c id := by
  rintro ⟨b, s, k, fault, sub, same, there, -⟩
  cases same
  exact apart s k fault (Option.some.inj (here.symm.trans there))

section
variable {p : Purpose} {k : Int64} (accounts : Accounts language past w)
  (attended : System.Attended language w.replies w.system)
  (found : w.system.subscription? s = some sub)
  (put : change.subscriptions = w.system.subscriptions.set s now)
  (superseded : (w.after a change).system.Superseded w.replies w.live)
include accounts attended found put superseded

/-- A response hands its registration to the subscription that puts it on record. -/
private theorem Accounts.registers {q : RequestId} {late : Bool} {reply : Except Fault Message}
    (here : w.system.stage? a = some (.awaitRegistration s p c k q late))
    (replied : w.system.reply? q = some reply) (read : reply.bind sub.listener.registration = .ok id)
    (leaves : change.stage.awaits? = none) (began : change.started = [])
    (sent : change.requests = w.system.requests) (gained : now.registration = ⟨some c, some id, some k⟩) :
    Accounts language (past ++ [⟨w, .own (.proceed a), w.after a change⟩]) (w.after a change) := by
  have grown : change.requests = w.system.requests ++ [] := by simp [sent]
  have grants {c' id'} : w.Grants language q c' id' ↔ c' = c ∧ reply.bind sub.listener.registration = .ok id' :=
    grants_of_reply (attended.stages a _ here sub found) (attended.replied q reply replied)
  have awaits {r} : (w.after a change).system.Awaits r ↔ w.system.Awaits r ∧ r ≠ q :=
    System.awaits_over attended.alone here rfl leaves began
  refine accounts.transfer (.response q) (.subscription s) rfl rfl rfl rfl ?_ ?_ superseded
  · intro c' id' k' keeps
    cases k' with
    | subscription t =>
      rcases (records_put put found).mp keeps with ⟨rfl, connected, identified⟩ | ⟨other, before⟩
      · refine .inr ⟨rfl, ⟨a, _, here, rfl⟩, grants.mpr ?_⟩
        simp only [gained, Option.some.injEq] at connected identified
        exact ⟨connected.symm, identified ▸ read⟩
      · exact .inl ⟨before, by simp⟩
    | response r =>
      obtain ⟨waits, other⟩ := awaits.mp keeps.1
      exact .inl ⟨⟨waits, (grants_after attended grown).mp keeps.2⟩, by simp [other]⟩
    | removal r => exact .inl ⟨(removes_still grown (by simp)).mp keeps, by simp⟩
    | nobody => exact .inl ⟨(forgotten_still (remembers here (by simp))).mp keeps, by simp⟩
  · intro c' id' k' live keeps
    cases k' with
    | subscription t =>
      by_cases same : t = s
      · -- the registration that is superseded is not on the open connection
        exfalso
        subst same
        obtain ⟨sub', found', connected, -⟩ := keeps
        obtain rfl := Option.some.inj (found.symm.trans found')
        cases reply with
        | error fault => simp [Except.bind] at read
        | ok answer =>
          exact accounts.superseded a t p c k q late sub c' answer here found connected
            (attended.replied q _ replied) live
      · exact .inl ⟨by simp, (records_put put found).mpr (.inr ⟨same, keeps⟩)⟩
    | response r =>
      by_cases same : r = q
      · subst same
        obtain ⟨rfl, granted⟩ := grants.mp keeps.2
        rw [read, Except.ok.injEq] at granted
        exact .inr ⟨rfl, (records_put put found).mpr (.inl ⟨rfl, by simp [gained], by simp [gained, granted]⟩)⟩
      · exact .inl ⟨by simp [same], awaits.mpr ⟨keeps.1, same⟩, (grants_after attended grown).mpr keeps.2⟩
    | removal r => exact .inl ⟨by simp, (removes_still grown (by simp)).mpr keeps⟩
    | nobody => exact .inl ⟨by simp, forgotten_concat.mpr (.inl keeps)⟩

/-- A subscription that gives up making another registration forgets the one it has. -/
private theorem Accounts.undoes {fault : Fault} (here : w.system.stage? a = some (.removeRoute s p k fault))
    (leaves : change.stage.awaits? = none) (began : change.started = [])
    (sent : change.requests = w.system.requests) (gone : now.registration = .none) :
    Accounts language (past ++ [⟨w, .own (.proceed a), w.after a change⟩]) (w.after a change) := by
  have grown : change.requests = w.system.requests ++ [] := by simp [sent]
  have idle : (Stage.removeRoute s p k fault : Stage σ κ).awaits? = none := rfl
  have awaits {r} : (w.after a change).system.Awaits r ↔ w.system.Awaits r :=
    System.awaits_still here (by simp [idle, leaves, began])
  refine accounts.transfer (.subscription s) .nobody rfl rfl rfl rfl ?_ ?_ superseded
  · intro c' id' k' keeps
    cases k' with
    | subscription t =>
      rcases (records_put put found).mp keeps with ⟨-, connected, -⟩ | ⟨other, before⟩
      · simp [gone, Registration.none] at connected
      · exact .inl ⟨before, by simp [other]⟩
    | response r => exact .inl ⟨⟨awaits.mp keeps.1, (grants_after attended grown).mp keeps.2⟩, by simp⟩
    | removal r => exact .inl ⟨(removes_still grown (by simp)).mp keeps, by simp⟩
    | nobody =>
      rcases forgotten_concat.mp keeps with before | ⟨b, t, k', fault', sub', same, there, found', connected, identified, -⟩
      · exact .inl ⟨before, by simp⟩
      · cases same
        cases Option.some.inj (here.symm.trans there)
        exact .inr ⟨rfl, sub', found', connected, identified⟩
  · intro c' id' k' live keeps
    cases k' with
    | subscription t =>
      by_cases same : t = s
      · subst same
        obtain ⟨sub', found', connected, identified⟩ := keeps
        obtain rfl := Option.some.inj (found.symm.trans found')
        obtain ⟨-, installing⟩ := (attended.sound.kept t sub found).has here rfl (by simp)
        cases p with
        | first =>
          obtain ⟨-, -, -, none⟩ := installing
          simp [none, Registration.none] at connected
        | again =>
          refine .inr ⟨rfl, forgotten_concat.mpr (.inr ?_)⟩
          exact ⟨a, t, k, fault, sub, rfl, here, found, connected, identified, live⟩
      · exact .inl ⟨by simp [same], (records_put put found).mpr (.inr ⟨same, keeps⟩)⟩
    | response r => exact .inl ⟨by simp, awaits.mpr keeps.1, (grants_after attended grown).mpr keeps.2⟩
    | removal r => exact .inl ⟨by simp, (removes_still grown (by simp)).mpr keeps⟩
    | nobody => exact .inl ⟨by simp, forgotten_concat.mpr (.inl keeps)⟩

/-- A subscription hands its registration to a request for its removal. -/
private theorem Accounts.removes {m message : Message} (here : w.system.stage? a = some stage)
    (idle : stage.awaits? = none) (connected : sub.registration.connection = some c)
    (identified : sub.registration.id = some id) (removal : sub.listener.removal id = .ok m)
    (set : m.setCorrelation k = .ok message) (leaves : change.stage.awaits? = none) (began : change.started = [])
    (sent : change.requests = w.system.requests ++ [⟨c, message, .spawned⟩]) (gone : now.registration = .none)
    (apart : ∀ t k fault, stage ≠ .removeRoute t .again k fault) :
    Accounts language (past ++ [⟨w, .own (.proceed a), w.after a change⟩]) (w.after a change) := by
  have order := (attended.speaks s sub found).1.order_of_removal removal set
  have awaits {r} : (w.after a change).system.Awaits r ↔ w.system.Awaits r :=
    System.awaits_still here (by simp [idle, leaves, began])
  refine accounts.transfer (.subscription s) (.removal w.system.requests.length) rfl rfl rfl rfl ?_ ?_ superseded
  · intro c' id' k' keeps
    cases k' with
    | subscription t =>
      rcases (records_put put found).mp keeps with ⟨-, connected, -⟩ | ⟨other, before⟩
      · simp [gone, Registration.none] at connected
      · exact .inl ⟨before, by simp [other]⟩
    | response r => exact .inl ⟨⟨awaits.mp keeps.1, (grants_after attended sent).mp keeps.2⟩, by simp⟩
    | removal r =>
      rcases (removes_more attended sent order).mp keeps with before | ⟨rfl, rfl, rfl⟩
      · exact .inl ⟨before, by simp⟩
      · exact .inr ⟨rfl, sub, found, connected, identified⟩
    | nobody => exact .inl ⟨(forgotten_still (remembers here apart)).mp keeps, by simp⟩
  · intro c' id' k' live keeps
    cases k' with
    | subscription t =>
      by_cases same : t = s
      · subst same
        obtain ⟨sub', found', connected', identified'⟩ := keeps
        obtain rfl := Option.some.inj (found.symm.trans found')
        obtain rfl := Option.some.inj (connected.symm.trans connected')
        obtain rfl := Option.some.inj (identified.symm.trans identified')
        exact .inr ⟨rfl, (removes_more attended sent order).mpr (.inr ⟨rfl, rfl, rfl⟩)⟩
      · exact .inl ⟨by simp [same], (records_put put found).mpr (.inr ⟨same, keeps⟩)⟩
    | response r => exact .inl ⟨by simp, awaits.mpr keeps.1, (grants_after attended sent).mpr keeps.2⟩
    | removal r => exact .inl ⟨by simp, (removes_more attended sent order).mpr (.inl keeps)⟩
    | nobody => exact .inl ⟨by simp, forgotten_concat.mpr (.inl keeps)⟩
end

theorem Accounts.turn (accounts : Accounts language past w)
    (attended : System.Attended language w.replies w.system) (here : w.system.stage? a = some stage)
    (about : stage.subscription? = some s) (found : w.system.subscription? s = some sub)
    (turn : System.Turn w.system a s sub stage change)
    (superseded : (w.after a change).system.Superseded w.replies w.live) :
    Accounts language (past ++ [⟨w, .own (.proceed a), w.after a change⟩]) (w.after a change) := by
  obtain ⟨now, put, deals⟩ := attended.deals found turn
  have remembers (apart : ∀ p k fault, stage ≠ .removeRoute s p k fault) (c) (id) :
      ¬ Forgets ⟨w, .own (.proceed a), w.after a change⟩ c id := by
    refine remembers here ?_
    rintro t k fault rfl
    obtain rfl := Option.some.inj about
    exact apart .again k fault rfl
  have still (t) (c) (id) (same : now = sub) :
      (w.after a change).system.Records t c id ↔ w.system.Records t c id :=
    records_still put found (by rw [same])
  cases deals with
  | stays none leaves began same connection identity apart =>
    have grown : change.requests = w.system.requests ++ [] := by simp [same]
    refine accounts.calm rfl rfl rfl rfl ?_ ?_ ?_ (remembers apart) superseded
    · intro t c id
      exact records_still put found (by rw [connection, identity])
    · intro r c id
      rw [grants_after attended grown, after_system, System.awaits_still here (by simp [none, leaves, began])]
    · intro r c id
      exact removes_still grown (by simp)
  | asks p c k m came coming began grown same =>
    subst came
    refine accounts.calm rfl rfl rfl rfl (fun t c id => still t c id same) ?_ ?_ (remembers (by simp)) superseded
    · intro r c id
      rw [grants_after attended grown, after_system, System.awaits_begun here rfl (by rw [coming]; rfl) began]
      refine and_congr_left ?_
      rintro ⟨read, reply, -, replied, -⟩
      rw [or_iff_left_iff_imp]
      rintro rfl
      simp [attended.not_replied_new] at replied
    · intro r c id
      have order := attended.stages a _ here sub found
      exact removes_still grown (by simp [order])
  | abandons p c k r late fault came coming began sent same =>
    subst came
    have grown : change.requests = w.system.requests ++ [] := by simp [sent]
    refine accounts.calm rfl rfl rfl rfl (fun t c id => still t c id same) ?_ ?_ (remembers (by simp)) superseded
    · intro q c id
      rw [grants_after attended grown, after_system,
        System.awaits_still here (by simp [coming, began, Stage.awaits?])]
    · intro q c id
      exact removes_still grown (by simp)
  | loses p c k q late reply fault came replied unread coming began sent same =>
    subst came
    have grown : change.requests = w.system.requests ++ [] := by simp [sent]
    refine accounts.calm rfl rfl rfl rfl (fun t c id => still t c id same) ?_ ?_ (remembers (by simp)) superseded
    · intro r c' id
      rw [brings_over attended here rfl (by rw [coming]; rfl) began grown]
      exact brings_none (attended.stages a _ here sub found) (attended.replied q reply replied) unread
    · intro r c id
      exact removes_still grown (by simp)
  | forgoes none leaves began sent missing gone apart =>
    have grown : change.requests = w.system.requests ++ [] := by simp [sent]
    refine accounts.calm rfl rfl rfl rfl ?_ ?_ ?_ (remembers apart) superseded
    · intro t c id
      refine records_still put found ?_
      rcases missing with connection | identity
      · simp [gone, Registration.none, connection]
      · simp [gone, Registration.none, identity]
    · intro r c id
      rw [grants_after attended grown, after_system, System.awaits_still here (by simp [none, leaves, began])]
    · intro r c id
      exact removes_still grown (by simp)
  | registers p c k q late reply id came replied read coming began sent gained =>
    subst came
    obtain ⟨outcome, coming⟩ := coming
    exact accounts.registers attended found put superseded here replied read (by rw [coming]; rfl) began sent gained
  | undoes p k fault came leaves began sent gone =>
    subst came
    exact accounts.undoes attended found put superseded here leaves began sent gone
  | removes c id m message k none connected identified removal set leaves began sent gone apart =>
    refine accounts.removes attended found put superseded here none connected identified removal set leaves began
      sent gone ?_
    rintro t k fault rfl
    obtain rfl := Option.some.inj about
    exact apart .again k fault rfl

private theorem records_of_errand (errand : System.Errand w.system a stage change) :
    (w.after a change).system.Records t c id ↔ w.system.Records t c id := by
  constructor
  · rintro ⟨sub, there, connected, identified⟩
    rcases errand.subscription?_cases there with before | ⟨-, listener, token, request, -, -, rfl⟩
    · exact ⟨sub, before, connected, identified⟩
    · simp [System.created, Registration.none] at connected
  · rintro ⟨sub, before, recorded⟩
    exact ⟨sub, errand.subscription?_after before, recorded⟩

theorem Accounts.errand (accounts : Accounts language past w)
    (attended : System.Attended language w.replies w.system) (here : w.system.stage? a = some stage)
    (errand : System.Errand w.system a stage change)
    (superseded : (w.after a change).system.Superseded w.replies w.live) :
    Accounts language (past ++ [⟨w, .own (.proceed a), w.after a change⟩]) (w.after a change) := by
  have apart : ∀ s k fault, stage ≠ .removeRoute s .again k fault := by
    rintro s k fault rfl
    simpa [Stage.engages?] using errand.engages?
  cases attended.serves here errand with
  | stays idle leaves began same =>
    have grown : change.requests = w.system.requests ++ [] := by simp [same]
    refine accounts.calm rfl rfl rfl rfl (fun t c id => records_of_errand errand) ?_ ?_
      (fun c id => remembers here apart) superseded
    · intro r c id
      rw [grants_after attended grown, after_system, System.awaits_still here]
      intro q
      rw [idle, leaves]
      constructor
      · rintro ⟨⟩
      · rintro (⟨⟨⟩⟩ | ⟨begun, started, waits⟩)
        simp [began begun started] at waits
    · intro r c id
      exact removes_still grown (by simp)
  | drops listener c q reply fault came replied unread leaves began same =>
    subst came
    have grown : change.requests = w.system.requests ++ [] := by simp [same]
    refine accounts.calm rfl rfl rfl rfl (fun t c id => records_of_errand errand) ?_ ?_
      (fun c id => remembers here apart) superseded
    · intro r c id
      rw [brings_over attended here rfl leaves began grown]
      exact brings_none (attended.stages a _ here).2 (attended.replied q reply replied) unread
    · intro r c id
      exact removes_still grown (by simp)
  | releases listener c q reply id m message k came replied read removal set leaves began sent =>
    subst came
    obtain ⟨speaks, asks⟩ := attended.stages a _ here
    have order := speaks.order_of_removal removal set
    have grants {c' id'} : w.Grants language q c' id' ↔ c' = c ∧ reply.bind listener.registration = .ok id' :=
      grants_of_reply asks (attended.replied q reply replied)
    refine accounts.transfer (.response q) (.removal w.system.requests.length) rfl rfl rfl rfl ?_ ?_ superseded
    · intro c' id' k' keeps
      cases k' with
      | subscription t => exact .inl ⟨(records_of_errand errand).mp keeps, by simp⟩
      | response r =>
        obtain ⟨other, before⟩ := (brings_over attended here rfl leaves began sent).mp keeps
        exact .inl ⟨before, by simp [other]⟩
      | removal r =>
        rcases (removes_more attended sent order).mp keeps with before | ⟨rfl, rfl, rfl⟩
        · exact .inl ⟨before, by simp⟩
        · exact .inr ⟨rfl, ⟨a, _, here, rfl⟩, grants.mpr ⟨rfl, read⟩⟩
      | nobody => exact .inl ⟨(forgotten_still (remembers here apart)).mp keeps, by simp⟩
    · intro c' id' k' live keeps
      cases k' with
      | subscription t => exact .inl ⟨by simp, (records_of_errand errand).mpr keeps⟩
      | response r =>
        by_cases same : r = q
        · subst same
          obtain ⟨rfl, granted⟩ := grants.mp keeps.2
          rw [read, Except.ok.injEq] at granted
          exact .inr ⟨rfl, (removes_more attended sent order).mpr (.inr ⟨rfl, rfl, granted.symm⟩)⟩
        · exact .inl ⟨by simp [same], (brings_over attended here rfl leaves began sent).mpr ⟨same, keeps⟩⟩
      | removal r => exact .inl ⟨by simp, (removes_more attended sent order).mpr (.inl keeps)⟩
      | nobody => exact .inl ⟨by simp, forgotten_concat.mpr (.inl keeps)⟩

end
end World
end Datagrid
