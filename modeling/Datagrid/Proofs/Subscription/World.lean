import Datagrid.Proofs.Subscription.Soundness

/-!
Worlds: the system with a transport and a member around it. The transport has at
most one connection open, makes it the one for new requests before it reports it, and
reports in order; what is sent on another connection fails. The member answers what it
accepts, gives every registration an id of its own, and keeps it until it is taken off
or the connection closes. When any of this happens is left open.
-/
namespace Datagrid

variable {σ κ : Type}

/-- What a message asks of a member. -/
inductive Order where
  /-- A registration, which the response brings. -/
  | register (read : Message → Except Fault Uuid)
  | remove (id : Uuid)
  | other

/-- A listener whose requests a member understands, and which understands the member. -/
structure Listener.Speaks (language : Message → Order) (listener : Listener σ κ) : Prop where
  request : ∀ m k sent, listener.request = .ok m → m.copy.setCorrelation k = .ok sent →
    language sent = .register listener.registration
  removal : ∀ id k, ∃ m sent, listener.removal id = .ok m ∧ m.setCorrelation k = .ok sent ∧
    language sent = .remove id

theorem Listener.Speaks.order_of_removal {language : Message → Order} {listener : Listener σ κ} {id : Uuid}
    {m sent : Message} {k : Int64} (speaks : listener.Speaks language) (removal : listener.removal id = .ok m)
    (set : m.setCorrelation k = .ok sent) : language sent = .remove id := by
  obtain ⟨m', sent', removal', set', order⟩ := speaks.removal id k
  obtain rfl : m = m' := Except.ok.inj (removal.symm.trans removal')
  obtain rfl : sent = sent' := Except.ok.inj (set.symm.trans set')
  exact order

/-- The moves that are the transport's. -/
def Move.isTransport : Move σ κ → Bool
  | .answer _ _ | .use _ | .publish _ | .closeEvents => true
  | _ => false

/-- A world. -/
structure World (σ κ : Type) where
  system : System σ κ
  /-- The open connection. -/
  live : Option ConnectionId
  /-- How many connections there have been. -/
  connections : Nat
  /-- What the transport has yet to report, the oldest first. -/
  outbox : List ConnectionEvent
  /-- What the transport answers to a request, once that is certain. -/
  replies : RequestId → Option (Except Fault Message)
  /-- The registrations that the member holds on the open connection. -/
  held : List Uuid
  /-- All registrations that the member has ever given. -/
  given : List Uuid

namespace World

/-- What can happen in a world. -/
inductive Act (σ κ : Type) where
  /-- A move of the system or its users. -/
  | own (move : Move σ κ)
  /-- A connection opens. -/
  | connect
  /-- The open connection closes. -/
  | disconnect
  /-- The open connection becomes the one for new requests. -/
  | use
  | publish
  /-- The member accepts a request. -/
  | accept (r : RequestId) (reply : Except Fault Message)
  /-- A request fails on a connection that is not open. -/
  | refuse (r : RequestId) (cause : LinkFault)
  | deliver (r : RequestId)

/-- A world at its beginning, with somebody who listens to the transport. -/
def start (limit : Timespan) (surroundings : σ) (capacity : Nat) : World σ κ where
  system := ((System.new limit surroundings).begin (.listen (.new capacity) none)).2
  live := none
  connections := 0
  outbox := []
  replies := fun _ => none
  held := []
  given := []

/-- A new connection is open. -/
@[simps]
def connected (w : World σ κ) : World σ κ :=
  { w with
    live := some w.connections
    connections := w.connections + 1
    outbox := w.outbox ++ [.connected w.connections] }

/-- The open connection is closed, and the registrations on it are gone. -/
@[simps]
def disconnected (w : World σ κ) (c : ConnectionId) : World σ κ :=
  { w with live := none, held := [], outbox := w.outbox ++ [.disconnected c] }

/-- It is certain what is answered to a request. -/
@[simps]
def reply (w : World σ κ) (r : RequestId) (reply : Except Fault Message) : World σ κ :=
  { w with replies := fun q => if q = r then some reply else w.replies q }

/-- The member gives a registration. -/
@[simps]
def grant (w : World σ κ) (id : Uuid) : World σ κ := { w with held := id :: w.held, given := id :: w.given }

/-- The member takes a registration off. -/
@[simps]
def revoke (w : World σ κ) (id : Uuid) : World σ κ := { w with held := w.held.filter (· != id) }

/-- The member does as it is asked. -/
def obey (w : World σ κ) (reply : Except Fault Message) : Order → Option (World σ κ)
  | .register read =>
    match reply.bind read with
    | .error _ => none
    | .ok id => if id ∈ w.given then none else some (w.grant id)
  | .remove id => some (w.revoke id)
  | .other => some w

/-- Whether the transport may report an event: the open connection not before it is the
    one for new requests. -/
def mayReport (w : World σ κ) : ConnectionEvent → Bool
  | .connected c => w.system.current = some c ∨ w.live ≠ some c
  | .disconnected _ => true

/-- What happens next, where it is possible. -/
def step? (language : Message → Order) (w : World σ κ) : Act σ κ → Option (World σ κ)
  | .own move => if move.isTransport then none else (w.system.step? move).map ({ w with system := · })
  | .connect =>
    match w.live with
    | some _ => none
    | none => some w.connected
  | .disconnect =>
    match w.live with
    | none => none
    | some c => some (w.disconnected c)
  | .use => (w.system.step? (.use w.live)).map ({ w with system := · })
  | .publish =>
    match w.outbox with
    | [] => none
    | event :: rest =>
      if w.mayReport event then
        (w.system.step? (.publish event)).map ({ w with system := ·, outbox := rest })
      else none
  | .accept r reply =>
    match w.system.requests[r]? with
    | some ⟨c, message, .sent⟩ =>
      if w.live = some c ∧ (w.replies r).isNone then (w.reply r reply).obey reply (language message) else none
    | _ => none
  | .refuse r cause =>
    match w.system.requests[r]? with
    | some ⟨c, _, .sent⟩ => if w.live = some c then none else some (w.reply r (.error (.link cause)))
    | _ => none
  | .deliver r =>
    match w.replies r with
    | none => none
    | some reply => (w.system.step? (.answer r reply)).map ({ w with system := · })

/-! ## All that can happen -/

/-- What happens, with what has to be so for it. -/
inductive Happens (language : Message → Order) (w : World σ κ) : Act σ κ → World σ κ → Prop where
  | own {move : Move σ κ} {system : System σ κ} : move.isTransport = false →
      w.system.step? move = some system → Happens language w (.own move) { w with system }
  | connect : w.live = none → Happens language w .connect w.connected
  | disconnect {c : ConnectionId} : w.live = some c → Happens language w .disconnect (w.disconnected c)
  | use {system : System σ κ} : w.system.step? (.use w.live) = some system →
      Happens language w .use { w with system }
  | publish {event : ConnectionEvent} {rest : List ConnectionEvent} {system : System σ κ} :
      w.outbox = event :: rest → w.mayReport event = true → w.system.step? (.publish event) = some system →
      Happens language w .publish { w with system, outbox := rest }
  | register {r : RequestId} {c : ConnectionId} {message : Message} {reply : Except Fault Message}
      {read : Message → Except Fault Uuid} {id : Uuid} : w.system.requests[r]? = some ⟨c, message, .sent⟩ →
      w.live = some c → w.replies r = none → language message = .register read → reply.bind read = .ok id →
      id ∉ w.given → Happens language w (.accept r reply) ((w.reply r reply).grant id)
  | remove {r : RequestId} {c : ConnectionId} {message : Message} (reply : Except Fault Message) {id : Uuid} :
      w.system.requests[r]? = some ⟨c, message, .sent⟩ → w.live = some c → w.replies r = none →
      language message = .remove id → Happens language w (.accept r reply) ((w.reply r reply).revoke id)
  | other {r : RequestId} {c : ConnectionId} {message : Message} (reply : Except Fault Message) :
      w.system.requests[r]? = some ⟨c, message, .sent⟩ → w.live = some c → w.replies r = none →
      language message = .other → Happens language w (.accept r reply) (w.reply r reply)
  | refuse {r : RequestId} {c : ConnectionId} {message : Message} (cause : LinkFault) :
      w.system.requests[r]? = some ⟨c, message, .sent⟩ → w.live ≠ some c →
      Happens language w (.refuse r cause) (w.reply r (.error (.link cause)))
  | deliver {r : RequestId} {reply : Except Fault Message} {system : System σ κ} : w.replies r = some reply →
      w.system.step? (.answer r reply) = some system → Happens language w (.deliver r) { w with system }

/-- What a member does for a request that it takes. -/
private theorem happens_of_obey {language : Message → Order} {w next : World σ κ} {r : RequestId} {c : ConnectionId}
    {message : Message} {reply : Except Fault Message} (there : w.system.requests[r]? = some ⟨c, message, .sent⟩)
    (live : w.live = some c) (unreplied : w.replies r = none)
    (taken : (w.reply r reply).obey reply (language message) = some next) :
    w.Happens language (.accept r reply) next := by
  cases order : language message with
  | register read =>
    cases found : reply.bind read with
    | error fault => simp [obey, order, found] at taken
    | ok id =>
      simp only [obey, order, found] at taken
      by_cases old : id ∈ (w.reply r reply).given
      · rw [if_pos old] at taken
        cases taken
      · rw [if_neg old, Option.some.injEq] at taken
        subst taken
        exact .register there live unreplied order found old
  | remove id =>
    simp only [obey, order, Option.some.injEq] at taken
    subst taken
    exact .remove reply there live unreplied order
  | other =>
    simp only [obey, order, Option.some.injEq] at taken
    subst taken
    exact .other reply there live unreplied order

theorem happens_of_step {language : Message → Order} {w next : World σ κ} {act : Act σ κ}
    (taken : w.step? language act = some next) : w.Happens language act next := by
  cases act with
  | own move =>
    simp only [step?] at taken
    by_cases foreign : move.isTransport = true
    · simp [foreign] at taken
    · rw [if_neg foreign, Option.map_eq_some_iff] at taken
      obtain ⟨system, moved, rfl⟩ := taken
      exact .own (by simpa using foreign) moved
  | connect =>
    cases live : w.live with
    | some c => simp [step?, live] at taken
    | none =>
      simp only [step?, live, Option.some.injEq] at taken
      subst taken
      exact .connect live
  | disconnect =>
    cases live : w.live with
    | none => simp [step?, live] at taken
    | some c =>
      simp only [step?, live, Option.some.injEq] at taken
      subst taken
      exact .disconnect live
  | use =>
    simp only [step?, Option.map_eq_some_iff] at taken
    obtain ⟨system, moved, rfl⟩ := taken
    exact .use moved
  | publish =>
    cases outbox : w.outbox with
    | nil => simp [step?, outbox] at taken
    | cons event rest =>
      by_cases may : w.mayReport event = true
      · simp only [step?, outbox, may, if_true, Option.map_eq_some_iff] at taken
        obtain ⟨system, moved, rfl⟩ := taken
        exact .publish outbox may moved
      · simp [step?, outbox, may] at taken
  | accept r reply =>
    simp only [step?] at taken
    split at taken
    · next c message there =>
      by_cases free : w.live = some c ∧ (w.replies r).isNone = true
      · rw [if_pos free] at taken
        obtain ⟨live, unreplied⟩ := free
        have unreplied : w.replies r = none := by simpa using unreplied
        exact happens_of_obey there live unreplied taken
      · rw [if_neg free] at taken
        cases taken
    · cases taken
  | refuse r cause =>
    simp only [step?] at taken
    split at taken
    · next c message there =>
      by_cases live : w.live = some c
      · simp [live] at taken
      · rw [if_neg live, Option.some.injEq] at taken
        subst taken
        exact .refuse cause there live
    · cases taken
  | deliver r =>
    cases replied : w.replies r with
    | none => simp [step?, replied] at taken
    | some reply =>
      simp only [step?, replied, Option.map_eq_some_iff] at taken
      obtain ⟨system, moved, rfl⟩ := taken
      exact .deliver replied moved

/-- Whatever happens, the system makes a move, or none. -/
theorem Happens.system {language : Message → Order} {w next : World σ κ} {act : Act σ κ}
    (happens : w.Happens language act next) :
    next.system = w.system ∨ ∃ move, w.system.step? move = some next.system := by
  cases happens with
  | own _ moved => exact .inr ⟨_, moved⟩
  | use moved => exact .inr ⟨_, moved⟩
  | publish _ _ moved => exact .inr ⟨_, moved⟩
  | deliver _ moved => exact .inr ⟨_, moved⟩
  | _ => exact .inl rfl

end World

/-- A stage of an activity that is over, that has heard all there is to hear, or that only
    hands events over. -/
def Stage.rests : Stage σ κ → Bool
  | done _ | event _ _ | route _ _ _ | deliver _ _ | call _ | pump _ _ => true
  | listen feed _ => feed.items.isEmpty && !feed.lagged
  | _ => false

namespace World

/-- A world in which nothing is under way. -/
structure Quiet (w : World σ κ) : Prop where
  rests : ∀ a stage, w.system.stage? a = some stage → stage.rests = true
  answered : ∀ r < w.system.requests.length, (w.system.reply? r).isSome
  reported : w.outbox = []

/-- An active subscription has the registration on record. -/
def Recorded (w : World σ κ) (id : Uuid) : Prop :=
  ∃ s ∈ w.system.table, ∃ sub, w.system.subscription? s = some sub ∧ sub.state = .active ∧
    sub.registration.id = some id

theorem quiet_iff {w : World σ κ} : w.Quiet ↔ (∀ stage ∈ w.system.activities, stage.rests = true) ∧
    (∀ r < w.system.requests.length, (w.system.reply? r).isSome) ∧ w.outbox = [] := by
  constructor
  · rintro ⟨rests, answered, reported⟩
    refine ⟨?_, answered, reported⟩
    intro stage there
    obtain ⟨a, here⟩ := List.mem_iff_getElem?.mp there
    exact rests a stage here
  · rintro ⟨rests, answered, reported⟩
    exact ⟨fun a stage here => rests stage (List.mem_of_getElem? here), answered, reported⟩

instance (w : World σ κ) : Decidable w.Quiet := decidable_of_iff _ quiet_iff.symm

theorem recorded_iff {w : World σ κ} {id : Uuid} : w.Recorded id ↔ ∃ s ∈ w.system.table,
    (w.system.subscription? s).any (fun sub => sub.state = .active ∧ sub.registration.id = some id) = true := by
  simp [Recorded, Option.any_eq_true]

instance (w : World σ κ) (id : Uuid) : Decidable (w.Recorded id) := decidable_of_iff _ recorded_iff.symm

/-- An activity gives up making a registration in the place of one that is on the open
    connection. That one is on nobody's record any longer. -/
def Forgets (e : Step (World σ κ) (Act σ κ)) (c : ConnectionId) (id : Uuid) : Prop :=
  ∃ a s k fault sub, e.move = .own (.proceed a) ∧
    e.before.system.stage? a = some (.removeRoute s .again k fault) ∧
    e.before.system.subscription? s = some sub ∧ sub.registration.connection = some c ∧
    sub.registration.id = some id ∧ e.before.live = some c

end World
end Datagrid
