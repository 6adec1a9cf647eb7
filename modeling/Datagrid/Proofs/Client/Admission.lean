import Datagrid.Client.Handshake
import Datagrid.Event.MapSubscription
import Datagrid.Proofs.Operation.Opening
import Datagrid.Proofs.Payload.Negotiation
import Datagrid.Rehearsal.Play

/-!
# Admission: who opens the version gate

A gate is opened by a response that grants everything, and by nothing else; once it is open, it
stays open. Whatever else is done with it, in any order: before, typed values are refused and no
serializer is asked; afterwards there is no difference to the registry behind the gate.
-/
namespace Datagrid

/-! ## Handshakes -/

namespace Handshake

/-- What a response has to say for the client to be let in. -/
def Grants (r : AuthenticationResponse) : Prop :=
  r.status = 0 ∧ (∃ uuid, r.member = some uuid) ∧ r.version = serializationVersion

/-- What has to come back for the client to be let in. -/
def Admits (reply : Except Fault Message) : Prop :=
  ∃ message r, reply = .ok message ∧ message.inspect Authentication.decodeResponse = .ok r ∧ Grants r

theorem ofByte_eq_authenticated_iff {status : UInt8} :
    AuthenticationStatus.ofByte status = .ok .authenticated ↔ status = 0 := by
  constructor
  · intro known
    unfold AuthenticationStatus.ofByte at known
    split at known <;> simp_all
  · rintro rfl
    rfl

theorem grant_of_grants {r : AuthenticationResponse} (grants : Grants r) {gate : Gate} (spoken : gate.Spoken) :
    ∃ member, grant gate r = .ok (member, { gate with version := some serializationVersion }) := by
  obtain ⟨status, ⟨uuid, member⟩, version⟩ := grants
  have known := ofByte_eq_authenticated_iff.2 status
  refine ⟨⟨⟨uuid, r.address, false⟩, r.serverVersion, r.partitions, r.cluster⟩, ?_⟩
  simp only [grant, known, member, version, Gate.negotiate_of_spoken spoken, bind, Except.bind]
  rfl

theorem grants_of_grant {r : AuthenticationResponse} {gate next : Gate} {member : AuthenticatedMember}
    (granted : grant gate r = .ok (member, next)) : Grants r := by
  unfold grant at granted
  cases known : AuthenticationStatus.ofByte r.status with
  | error fault => simp [known, bind, Except.bind] at granted
  | ok status =>
    simp only [known, bind, Except.bind] at granted
    cases status with
    | rejected => cases granted
    | otherVersion => cases granted
    | notAllowed => cases granted
    | authenticated =>
      cases there : r.member with
      | none => simp only [there] at granted; cases granted
      | some uuid =>
        simp only [there] at granted
        by_cases version : r.version = serializationVersion
        · exact ⟨ofByte_eq_authenticated_iff.1 known, ⟨uuid, there⟩, version⟩
        · simp [Gate.negotiate_of_ne version] at granted

/-- Only a response that grants everything is accepted, and nothing else changes the gate. -/
theorem accept_cases {gate : Gate} (spoken : gate.Spoken) (r : AuthenticationResponse) :
    (Grants r ∧ ∃ member, accept gate r = (.ok member, { gate with version := some serializationVersion })) ∨
      (¬ Grants r ∧ ∃ fault, accept gate r = (.error fault, gate)) := by
  unfold accept
  cases granted : grant gate r with
  | error fault =>
    refine .inr ⟨fun grants => ?_, fault, rfl⟩
    obtain ⟨member, here⟩ := grant_of_grants grants spoken
    simp [here] at granted
  | ok result =>
    obtain ⟨member, next⟩ := result
    have grants := grants_of_grant granted
    obtain ⟨member', here⟩ := grant_of_grants grants spoken
    obtain ⟨-, rfl⟩ : member' = member ∧ _ = next := by simpa [here] using granted
    exact .inl ⟨grants, member, rfl⟩

/-- Only what lets the client in succeeds, and nothing else changes the gate. -/
theorem acceptReply_cases {gate : Gate} (spoken : gate.Spoken) (reply : Except Fault Message) :
    (Admits reply ∧
        ∃ member, acceptReply gate reply = (.ok member, { gate with version := some serializationVersion })) ∨
      (¬ Admits reply ∧ ∃ fault, acceptReply gate reply = (.error fault, gate)) := by
  cases reply with
  | error fault => exact .inr ⟨by simp [Admits], fault, rfl⟩
  | ok message =>
    cases read : message.inspect Authentication.decodeResponse with
    | error fault => exact .inr ⟨by simp [Admits, read], fault, by simp [acceptReply, Except.bind, read]⟩
    | ok r =>
      have admits : Admits (.ok message) ↔ Grants r := by simp [Admits, read]
      simp only [admits, acceptReply, Except.bind, read]
      exact accept_cases spoken r

/-- The request to be let in can always be made. -/
theorem request_succeeds (c : Config) (uuid : Uuid) (correlation : Int64) :
    ∃ message, request c uuid correlation = .ok message :=
  ⟨_, Message.setCorrelation_headed (by rw [Authentication.encodeRequest, Message.requestOf, Frame.ofRequest_eq])
    correlation⟩

end Handshake

/-! ## Subscriptions -/

namespace MapSubscription

variable {α : Type} {handlers : Handlers α}

/-- Handlers that ask for nothing are refused, whatever the gate. -/
theorem prepare_of_nothing (nothing : handlers.interest.isNothing) (map : String) (includeValue : Bool)
    (keyType valueType : ValueType) (key : Option Value) (predicate : Option Data) (gate : Gate) :
    prepare map includeValue handlers keyType valueType key predicate gate = .error (.config .noHandler) := by
  simp [prepare, nothing, bind, Except.bind, throw, throwThe, MonadExceptOf.throw]

/-- A subscription to one key is what the gate makes of the key. -/
theorem prepare_of_key (interest : handlers.interest.isNothing = false) (map : String) (includeValue : Bool)
    (keyType valueType : ValueType) (key : Value) (predicate : Option Data) (gate : Gate) :
    prepare map includeValue handlers keyType valueType (some key) predicate gate =
      (gate.toData key).map fun d =>
        ⟨⟨map, some d, predicate, includeValue, handlers.interest.bits, false⟩, handlers, keyType, valueType⟩ := by
  simp only [prepare, interest, Option.mapM_some]
  cases gate.toData key <;> rfl

end MapSubscription

namespace Rehearsal

theorem system_token? (label : Option String) (w : Scene) : ((token? label).run w).2.system = w.system := by
  cases label <;> rfl

/-- Where a subscription cannot be prepared, nothing is begun and nothing is sent. -/
theorem subscribe_of_refused {spec : SubscribeSpec Step} {w : Scene} {fault : Fault}
    (refused : MapSubscription.prepare spec.map (spec.includeValue.getD w.config.includeValues) spec.handlers
      (.primitive .text) (.primitive .text) (spec.key.map fun key => .primitive (.text key)) spec.predicate
      w.system.surroundings.gate = .error fault) :
    ∃ w', (subscribe spec).run w = (.done (.fault fault), w') ∧ w'.system = w.system := by
  refine ⟨((token? spec.token).run w).2, ?_, system_token? spec.token w⟩
  simp only [subscribe, StateT.run_bind, StateT.run_get, pure_bind, refused]
  rfl

end Rehearsal

/-! ## Dealings -/

variable {α : Type}

/-- What can be done with a gate, and with the lazy values behind it. -/
inductive Dealing (α : Type) where
  /-- Takes in a response. -/
  | accept (response : AuthenticationResponse)
  /-- Asks a member to let the client in; the gate is touched once the reply is there. -/
  | authenticate (config : Config) (uuid : Uuid) (correlation : Int64) (send : Message → Except Fault Message)
  /-- Deserializes a value. -/
  | read (type : ValueType) (d : Data)
  /-- Asks for a lazy value. -/
  | get (field : Nat)
  /-- Prepares a subscription. -/
  | prepare (map : String) (includeValue : Bool) (handlers : Handlers α) (keyType valueType : ValueType)
      (key : Option Value) (predicate : Option Data)

/-- Whether a dealing is to let the client in. -/
def Dealing.Admitted : Dealing α → Prop
  | .accept response => Handshake.Grants response
  | .authenticate config uuid correlation send =>
    ∃ request, Handshake.request config uuid correlation = .ok request ∧ Handshake.Admits (send request)
  | .read _ _ | .get _ | .prepare _ _ _ _ _ _ _ => False

/-- What comes of a dealing. -/
inductive Dealt (α : Type) where
  | member (result : Except Fault AuthenticatedMember)
  | value (result : Except Fault Value)
  | field (result : Except Fault (Option Value))
  | subscription (result : Except Fault (MapSubscription α))
  /-- There is no such field. -/
  | nothing

/-- A gate, with lazy values behind it. -/
structure Desk where
  gate : Gate
  fields : List Lazy

namespace Desk

/-- A closed gate, and lazy values that nobody has asked for. -/
def new (registry : Registry) (fields : List (ValueType × Option Data)) : Desk :=
  ⟨.closed registry, fields.map fun (type, raw) => .ofData type raw⟩

/-- The desk with its gate opened, and all else as it was. -/
def opened (k : Desk) : Desk := { k with gate := { k.gate with version := some serializationVersion } }

def deal (k : Desk) : Dealing α → Dealt α × Desk
  | .accept response =>
    let (result, gate) := Handshake.accept k.gate response
    (.member result, { k with gate })
  | .authenticate config uuid correlation send =>
    let (result, gate) := Handshake.authenticate config uuid correlation send k.gate
    (.member result, { k with gate })
  | .read type d =>
    let (result, gate) := k.gate.toObject type d
    (.value result, { k with gate })
  | .get i =>
    match k.fields[i]? with
    | none => (.nothing, k)
    | some l =>
      let (result, l, gate) := l.get k.gate
      (.field result, ⟨gate, k.fields.set i l⟩)
  | .prepare map includeValue handlers keyType valueType key predicate =>
    (.subscription (MapSubscription.prepare map includeValue handlers keyType valueType key predicate k.gate), k)

/-- Dealings one after the other, with what comes of each. -/
def deals (k : Desk) : List (Dealing α) → List (Dealt α) × Desk
  | [] => ([], k)
  | d :: rest =>
    let (dealt, k) := k.deal d
    let (rest, k) := k.deals rest
    (dealt :: rest, k)

/-- What every dealing leaves as it is: which values there are, what their serializers are, and what has
    been read of them. A closed gate has let nothing be read. -/
structure Sound (registry : Registry) (fields : List (ValueType × Option Data)) (k : Desk) : Prop where
  serializers : k.gate.registry.serializers = registry.serializers
  version : k.gate.Spoken
  fields : k.fields.map (fun l => (l.type, l.raw)) = fields
  agrees : ∀ l ∈ k.fields, l.Agrees registry
  unread : k.gate.version = none → ∀ l ∈ k.fields, l.known = none

variable {registry : Registry} {fields : List (ValueType × Option Data)} {k : Desk}

theorem sound_new (registry : Registry) (fields : List (ValueType × Option Data)) :
    (new registry fields).Sound registry fields where
  serializers := rfl
  version := .inl rfl
  fields := by simp [new, Lazy.ofData, Function.comp_def]
  agrees l mem := by
    obtain ⟨⟨type, raw⟩, -, rfl⟩ := List.mem_map.1 mem
    exact Lazy.agrees_ofData type raw registry
  unread _ l mem := by
    obtain ⟨⟨type, raw⟩, -, rfl⟩ := List.mem_map.1 mem
    rfl

/-- A field is looked up by its place, and has the type and the value given there. -/
theorem Sound.field (sound : k.Sound registry fields) {i : Nat} {type : ValueType} {raw : Option Data}
    (there : fields[i]? = some (type, raw)) :
    ∃ l, k.fields[i]? = some l ∧ l.type = type ∧ l.raw = raw ∧ l ∈ k.fields := by
  rw [← sound.fields, List.getElem?_map, Option.map_eq_some_iff] at there
  obtain ⟨l, there, same⟩ := there
  obtain ⟨rfl, rfl⟩ := Prod.mk.inj same
  exact ⟨l, there, rfl, rfl, List.mem_of_getElem? there⟩

theorem Sound.opened (sound : k.Sound registry fields) : k.opened.Sound registry fields :=
  ⟨sound.serializers, .inr rfl, sound.fields, sound.agrees, by simp [Desk.opened]⟩

/-- What asking for a field comes to. -/
theorem Sound.got (sound : k.Sound registry fields) {i : Nat} {l : Lazy} (there : k.fields[i]? = some l) :
    (⟨(l.get k.gate).2.2, k.fields.set i (l.get k.gate).2.1⟩ : Desk).Sound registry fields := by
  have kept := l.get_keeps k.gate
  have mem := List.mem_of_getElem? there
  refine ⟨kept.serializers.trans sound.serializers, sound.version.of_same kept.version, ?_, ?_, ?_⟩
  · have same : (k.fields.map fun l => (l.type, l.raw))[i]? = some (l.type, l.raw) := by simp [there]
    rw [List.map_set, kept.type, kept.raw, ← sound.fields]
    obtain ⟨inside, same⟩ := List.getElem?_eq_some_iff.1 same
    rw [← same, List.set_getElem_self]
  · intro l' mem'
    rcases List.mem_or_eq_of_mem_set mem' with old | rfl
    · exact sound.agrees l' old
    · rcases sound.version with closed | opened
      · rw [Lazy.get_unread closed (sound.unread closed l mem)]
        exact sound.agrees l mem
      · exact (Lazy.get_of_open opened sound.serializers (sound.agrees l mem)).2
  · intro closed l' mem'
    rw [kept.version] at closed
    rw [Lazy.get_unread closed (sound.unread closed l mem)] at mem'
    rcases List.mem_or_eq_of_mem_set mem' with old | rfl
    · exact sound.unread closed l' old
    · exact sound.unread closed _ mem

/-- A dealing lets the client in and opens the gate, is refused and changes nothing, or has nothing to do
    with letting anybody in. -/
theorem deal_cases (spoken : k.gate.Spoken) (d : Dealing α) :
    (d.Admitted ∧ ∃ member, k.deal d = (.member (.ok member), k.opened)) ∨
      (¬ d.Admitted ∧ ∃ fault, k.deal d = (.member (.error fault), k)) ∨
        ¬ d.Admitted ∧ (∀ result, (k.deal d).1 ≠ .member result) ∧ (k.deal d).2.gate.version = k.gate.version := by
  cases d with
  | accept r =>
    rcases Handshake.accept_cases spoken r with ⟨grants, member, accepted⟩ | ⟨refused, fault, answer⟩
    · exact .inl ⟨grants, member, by simp [deal, accepted, opened]⟩
    · exact .inr (.inl ⟨refused, fault, by simp [deal, answer]⟩)
  | authenticate config uuid correlation send =>
    obtain ⟨request, made⟩ := Handshake.request_succeeds config uuid correlation
    have admitted : (Dealing.authenticate config uuid correlation send : Dealing α).Admitted ↔
        Handshake.Admits (send request) := by simp [Dealing.Admitted, made]
    have answered : Handshake.authenticate config uuid correlation send k.gate =
        Handshake.acceptReply k.gate (send request) := by simp [Handshake.authenticate, made, Except.bind]
    rw [admitted]
    rcases Handshake.acceptReply_cases spoken (send request) with ⟨admits, member, accepted⟩ | ⟨refused, fault, answer⟩
    · exact .inl ⟨admits, member, by simp [deal, answered, accepted, opened]⟩
    · exact .inr (.inl ⟨refused, fault, by simp [deal, answered, answer]⟩)
  | read type d => exact .inr (.inr ⟨id, by simp [deal], (k.gate.toObject_keeps type d).1⟩)
  | get i =>
    refine .inr (.inr ⟨id, ?_⟩)
    cases there : k.fields[i]? with
    | none => simp [deal, there]
    | some l => simp [deal, there, (l.get_keeps k.gate).version]
  | prepare map includeValue handlers keyType valueType key predicate => exact .inr (.inr ⟨id, by simp [deal]⟩)

theorem Sound.deal (sound : k.Sound registry fields) (d : Dealing α) : (k.deal d).2.Sound registry fields := by
  rcases deal_cases sound.version d with ⟨-, member, dealt⟩ | ⟨-, fault, dealt⟩ | ⟨-, nobody, -⟩
  · rw [dealt]
    exact sound.opened
  · rw [dealt]
    exact sound
  · cases d with
    | accept r => exact absurd rfl (nobody _)
    | authenticate config uuid correlation send => exact absurd rfl (nobody _)
    | read type d =>
      obtain ⟨version, serializers⟩ := k.gate.toObject_keeps type d
      exact ⟨serializers.trans sound.serializers, sound.version.of_same version, sound.fields, sound.agrees,
        fun closed => sound.unread (version ▸ closed)⟩
    | get i =>
      cases there : k.fields[i]? with
      | none => simpa [Desk.deal, there] using sound
      | some l => simpa [Desk.deal, there] using sound.got there
    | prepare map includeValue handlers keyType valueType key predicate => exact sound

theorem Sound.deals (sound : k.Sound registry fields) (ds : List (Dealing α)) :
    (k.deals ds).2.Sound registry fields := by
  induction ds generalizing k with
  | nil => exact sound
  | cons d ds ih => exact ih (sound.deal d)

/-- A gate is open after dealings if it was open before, or one of them has let the client in. -/
theorem version_deals (sound : k.Sound registry fields) (ds : List (Dealing α)) :
    (k.deals ds).2.gate.version = some serializationVersion ↔
      k.gate.version = some serializationVersion ∨ ∃ member, Dealt.member (.ok member) ∈ (k.deals ds).1 := by
  induction ds generalizing k with
  | nil => simp [deals]
  | cons d ds ih =>
    simp only [deals, ih (sound.deal d), List.mem_cons]
    rcases deal_cases sound.version d with ⟨-, member, dealt⟩ | ⟨-, fault, dealt⟩ | ⟨-, nobody, same⟩
    · simp only [dealt, opened, true_or, true_iff]
      exact .inr ⟨member, .inl rfl⟩
    · simp [dealt]
    · rw [same]
      simp [(nobody _).symm]

/-- What a closed gate does to everybody: no serializer is asked, and nothing is sent. -/
structure Refuses (fields : List (ValueType × Option Data)) (α : Type) (k : Desk) : Prop where
  read : ∀ type d, k.deal (.read type d : Dealing α) = (.value (.error (.protocol .notNegotiated)), k)
  get : ∀ i type d, fields[i]? = some (type, some d) →
    k.deal (.get i : Dealing α) = (.field (.error (.protocol .notNegotiated)), k)
  prepare : ∀ map includeValue (handlers : Handlers α) keyType valueType key predicate,
    handlers.interest.isNothing = false →
      k.deal (.prepare map includeValue handlers keyType valueType (some key) predicate) =
        (.subscription (.error (.protocol .notNegotiated)), k)
  /-- A subscription to a key begins nothing in the system. -/
  subscribe : ∀ (spec : Rehearsal.SubscribeSpec Rehearsal.Step) (w : Rehearsal.Scene) key,
    w.system.surroundings.gate = k.gate → spec.key = some key → (Handlers.interest spec.handlers).isNothing = false →
      ∃ w', (Rehearsal.subscribe spec).run w = (.done (.fault (.protocol .notNegotiated)), w') ∧
        w'.system = w.system

/-- What an open gate does to everybody: nothing. -/
structure Passes (registry : Registry) (fields : List (ValueType × Option Data)) (α : Type) (k : Desk) :
    Prop where
  read : ∀ type d, (k.deal (.read type d : Dealing α)).1 = .value (registry.toObject type d).1
  get : ∀ i type d, fields[i]? = some (type, some d) →
    (k.deal (.get i : Dealing α)).1 = .field ((registry.toObject type d).1.map some)
  prepare : ∀ map includeValue (handlers : Handlers α) keyType valueType key predicate,
    handlers.interest.isNothing = false →
      (k.deal (.prepare map includeValue handlers keyType valueType (some key) predicate)).1 =
        .subscription ((registry.toData key).map fun d =>
          ⟨⟨map, some d, predicate, includeValue, handlers.interest.bits, false⟩, handlers, keyType, valueType⟩)

theorem Sound.refuses (sound : k.Sound registry fields) (closed : k.gate.version = none) :
    k.Refuses fields α where
  read type d := by simp [Desk.deal, Gate.toObject_of_closed closed]
  get i type d there := by
    obtain ⟨l, here, -, raw, mem⟩ := sound.field there
    have same : k.fields.set i l = k.fields := by
      obtain ⟨inside, rfl⟩ := List.getElem?_eq_some_iff.1 here
      exact List.set_getElem_self inside
    simp [Desk.deal, here, Lazy.get_of_closed closed raw (sound.unread closed l mem), same]
  prepare map includeValue handlers keyType valueType key predicate interest := by
    simp [Desk.deal, MapSubscription.prepare_of_key interest, Gate.toData_of_closed closed, Except.map]
  subscribe spec w key gate filtered interest := by
    refine Rehearsal.subscribe_of_refused ?_
    rw [gate, filtered, Option.map_some, MapSubscription.prepare_of_key interest, Gate.toData_of_closed closed]
    rfl

theorem Sound.passes (sound : k.Sound registry fields) (opened : k.gate.version = some serializationVersion) :
    k.Passes registry fields α where
  read type d := by
    simp [Desk.deal, Gate.toObject_of_open opened, Registry.toObject_eq_of_same sound.serializers]
  get i type d there := by
    obtain ⟨l, here, rfl, raw, mem⟩ := sound.field there
    have got := (Lazy.get_of_open opened sound.serializers (sound.agrees l mem)).1
    simp [Desk.deal, here, got, Lazy.content, raw]
  prepare map includeValue handlers keyType valueType key predicate interest := by
    simp [Desk.deal, MapSubscription.prepare_of_key interest, Gate.toData_of_open opened,
      Registry.toData_eq_of_same sound.serializers]

/-- How a gate stands between a registry and everybody else, after dealings that came to `past`. -/
structure Guards (registry : Registry) (fields : List (ValueType × Option Data)) (past : List (Dealt α))
    (k : Desk) : Prop where
  /-- The gate is open once somebody was let in. -/
  opened : k.gate.version = some serializationVersion ↔ ∃ member, Dealt.member (.ok member) ∈ past
  /-- Until then it is closed. -/
  closed : k.gate.version = none ↔ ∀ member, Dealt.member (.ok member) ∉ past
  /-- Whatever follows, an open gate stays open. -/
  lasting : k.gate.version = some serializationVersion →
    ∀ more : List (Dealing α), (k.deals more).2.gate.version = some serializationVersion
  /-- The client is let in by what grants everything, and by nothing else. -/
  admitted : ∀ d : Dealing α, (∃ member, (k.deal d).1 = .member (.ok member)) ↔ d.Admitted
  /-- Whoever is not let in leaves everything as it was. -/
  failed : ∀ (d : Dealing α) fault, (k.deal d).1 = .member (.error fault) → (k.deal d).2 = k
  /-- Handlers that ask for nothing are refused before anybody looks at the gate. -/
  nothing : ∀ map includeValue (handlers : Handlers α) keyType valueType key predicate,
    handlers.interest.isNothing →
      k.deal (.prepare map includeValue handlers keyType valueType key predicate) =
        (.subscription (.error (.config .noHandler)), k)
  refuses : k.gate.version = none → k.Refuses fields α
  passes : k.gate.version = some serializationVersion → k.Passes registry fields α

/-- Whatever is done with a gate that was closed, in any order, it is opened by what grants everything and
    guards its registry until then. -/
theorem guards_registry (registry : Registry) (fields : List (ValueType × Option Data))
    (ds : List (Dealing α)) :
    Guards registry fields ((new registry fields).deals ds).1 ((new registry fields).deals ds).2 := by
  have sound := (sound_new registry fields).deals ds
  have opened : ((new registry fields).deals ds).2.gate.version = some serializationVersion ↔
      ∃ member, Dealt.member (.ok member) ∈ ((new registry fields).deals ds).1 := by
    rw [version_deals (sound_new registry fields)]
    simp [new, Gate.closed]
  generalize ((new registry fields).deals ds).2 = k at sound opened
  refine { opened, closed := ?_, lasting := ?_, admitted := ?_, failed := ?_, nothing := ?_,
           refuses := sound.refuses, passes := sound.passes }
  · rw [← not_exists, ← opened]
    rcases sound.version with closed | opened
    · simp [closed]
    · simp [opened]
  · intro already more
    exact (version_deals sound more).2 (.inl already)
  · intro d
    rcases deal_cases sound.version d with ⟨admitted, member, dealt⟩ | ⟨refused, fault, dealt⟩ | ⟨refused, nobody, -⟩
    · simp [admitted, dealt]
    · simp [refused, dealt]
    · simp [refused, nobody]
  · intro d fault failed
    rcases deal_cases sound.version d with ⟨-, member, dealt⟩ | ⟨-, fault', dealt⟩ | ⟨-, nobody, -⟩
    · simp [dealt] at failed
    · rw [dealt]
    · exact absurd failed (nobody _)
  · intro map includeValue handlers keyType valueType key predicate nothing
    simp [deal, MapSubscription.prepare_of_nothing nothing]

/-- A handler that asks for no kind of event is a handler, and yet nobody looks at the gate. -/
theorem empty_interest_is_refused_elsewhere :
    ¬ ∀ handlers : Handlers Unit, handlers ≠ [] → ∃ fault,
      ((new .standard []).deal (.prepare "orders" true handlers (.primitive .text) (.primitive .text)
        (some (.primitive (.text "key"))) none)).1 = .subscription (.error (.protocol fault)) := by
  intro guarded
  obtain ⟨fault, refused⟩ := guarded [⟨.entry, .nothing, ()⟩] (by simp)
  rw [deal, MapSubscription.prepare_of_nothing (by decide)] at refused
  simp at refused

end Desk
end Datagrid
