import Datagrid.Event.MapSubscription
import Datagrid.Event.Observer
import Datagrid.Proofs.Operation.Contents
import Datagrid.Proofs.Payload.Negotiation
import Datagrid.Proofs.Subscription.Calls

/-!
# Arrival: typed events reach their handlers as they were sent

A member writes typed values into a report, and the report into a message that is cut, sent and put
together again. While the subscription has its route, exactly the handlers that ask for the kinds of
the event are called, in their order, and each reads the values that were sent.
-/
namespace Datagrid

/-! ## Parts of an entry -/

/-- A part of the entry as a report brings it. -/
def EntryReport.part (r : EntryReport) : EntryField → Option Data
  | .key => r.key
  | .value => r.value
  | .oldValue => r.oldValue
  | .mergingValue => r.mergingValue

/-- The type of a part of the entry. -/
def MapSubscription.partType {α : Type} (m : MapSubscription α) : EntryField → ValueType
  | .key => m.keyType
  | .value | .oldValue | .mergingValue => m.valueType

namespace EntryEvent

variable {e : EntryEvent} {gate : Gate} {r : Registry}

theorem get_set (e : EntryEvent) (part : Lazy) (field other : EntryField) :
    (e.set part field).get other = if other = field then part else e.get other := by
  cases field <;> cases other <;> rfl

/-- Reading a part, whether it can be read or not, changes nothing about what is shown of any part. -/
theorem shows_read (e : EntryEvent) (gate gate' : Gate) (field other : EntryField) :
    gate'.shows ((e.read field gate).2.1.get other) = gate'.shows (e.get other) := by
  simp only [read, get_set]
  split
  · next same => rw [same, Lazy.shows_get]
  · rfl

theorem vouches_read (vouches : ∀ field, gate.Vouches (e.get field)) (field other : EntryField) :
    (e.read field gate).2.2.Vouches ((e.read field gate).2.1.get other) := by
  simp only [read, get_set]
  refine ((e.get field).get_alike gate).vouches ?_
  split
  · exact (Lazy.get_eq_shows (vouches field)).2
  · exact vouches other

theorem readAll_alike (e : EntryEvent) (gate : Gate) (fields : List EntryField) :
    gate.Alike (e.readAll gate fields).2.2 := by
  induction fields generalizing e gate with
  | nil => exact ⟨rfl, rfl⟩
  | cons field rest ih => exact ((e.get field).get_alike gate).trans (ih _ _)

/-- Each part is read as the gate shows it, whatever comes of reading the others, and goes on to be. -/
theorem readAll_eq_shows (vouches : ∀ field, gate.Vouches (e.get field)) (fields : List EntryField) :
    (e.readAll gate fields).1 = fields.map (fun field => (field, gate.shows (e.get field))) ∧
      ∀ other, (e.readAll gate fields).2.2.Vouches ((e.readAll gate fields).2.1.get other) ∧
        gate.shows ((e.readAll gate fields).2.1.get other) = gate.shows (e.get other) := by
  induction fields generalizing e gate with
  | nil => exact ⟨rfl, fun other => ⟨vouches other, rfl⟩⟩
  | cons field rest ih =>
    have alike : gate.Alike (e.read field gate).2.2 := (e.get field).get_alike gate
    obtain ⟨now, later⟩ := ih (vouches_read vouches field)
    simp only [alike.shows, shows_read] at now later
    have read : (e.readAll gate (field :: rest)).1 =
        (field, ((e.get field).get gate).1) :: ((e.read field gate).2.1.readAll (e.read field gate).2.2 rest).1 := rfl
    refine ⟨?_, later⟩
    rw [read, (Lazy.get_eq_shows (vouches field)).1, now, List.map_cons]

/-- Behind an open gate every part is read as what the registry makes of it, however often and in whatever
    order parts are read. -/
theorem readAll_fst {version : UInt8} (opened : gate.version = some version)
    (same : gate.registry.serializers = r.serializers) (agrees : ∀ field, (e.get field).Agrees r)
    (fields : List EntryField) :
    (e.readAll gate fields).1 = fields.map fun field => (field, (e.get field).content r) := by
  rw [(readAll_eq_shows (fun field => Lazy.vouches_of_open opened same (agrees field)) fields).1]
  simp [Lazy.shows_of_open opened same]

end EntryEvent

namespace MapSubscription

variable {α : Type} {m : MapSubscription α} {r : EntryReport}

theorem get_event (m : MapSubscription α) (directory : Directory) (r : EntryReport) (field : EntryField) :
    (m.event directory r).get field = .ofData (m.partType field) (r.part field) := by
  cases field <;> rfl

/-- A report carries typed values: those of the parts that are there, as a registry writes them. -/
structure Carries (m : MapSubscription α) (registry : Registry) (r : EntryReport)
    (sent : EntryField → Option Value) : Prop where
  absent : ∀ field, sent field = none → r.part field = none
  present : ∀ field v, sent field = some v → v.type = m.partType field ∧
    ∃ d, registry.toData v = .ok d ∧ r.part field = some d
  /-- The type is bound to a serializer that reads back what it writes. -/
  back : ∀ field v, sent field = some v →
    ∃ s, registry.resolveFor (m.partType field) = .ok s ∧ s.ReadsBack v

/-- What was sent is what the registry makes of the parts of the event. -/
theorem Carries.content {registry : Registry} {sent : EntryField → Option Value}
    (carries : m.Carries registry r sent) (one : registry.OneToOne) (directory : Directory) (field : EntryField) :
    ((m.event directory r).get field).content registry = .ok (sent field) := by
  rw [get_event, Lazy.content, Lazy.ofData]
  cases value : sent field with
  | none => simp [carries.absent field value]
  | some v =>
    obtain ⟨type, d, wrote, part⟩ := carries.present field v value
    obtain ⟨s, found, back⟩ := carries.back field v value
    obtain ⟨d', wrote', -, read⟩ := one.toObject_toData (type ▸ found) back
    obtain rfl : d = d' := Except.ok.inj (wrote.symm.trans wrote')
    simp [part, ← type, read, Except.map]

/-- The calls of those who ask for all kinds of a report. -/
def reportCalls (m : MapSubscription α) (directory : Directory) (r : EntryReport) : List (EntryCall α) :=
  (m.handlers.filter (·.mask.contains ⟨r.kind⟩)).map (⟨·, m.event directory r⟩)

/-- A message that delivers a report leads to a call of each handler that asks for its kinds. -/
theorem calls_of_delivers {message : Message} {k : Int64}
    (delivers : message.Delivers true m.selection.eventType k (EntryListener.decodeEvent m.selection) r)
    (something : r.kind ≠ 0) (around : Surroundings) :
    m.calls around message = .ok (m.reportCalls around.directory r) := by
  have event : EntryListener.isEvent m.selection message = true := by
    simp [EntryListener.isEvent, delivers.type]
  have called : m.handlers.called ⟨r.kind⟩ = m.handlers.filter (·.mask.contains ⟨r.kind⟩) := by
    simp [Handlers.called, EventKinds.isNothing, something]
    rfl
  simp only [calls, event, delivers.value, bind, Except.bind, Bool.not_true]
  rw [if_neg Bool.false_ne_true, reportCalls, ← called]
  rfl

/-! ## Events in the system -/

variable {registry : Registry} {sent : EntryField → Option Value}

/-- What those see who are called for a report. -/
structure Shows (m : MapSubscription α) (registry : Registry) (directory : Directory) (r : EntryReport)
    (sent : EntryField → Option Value) (calls : List (EntryCall α)) : Prop where
  /-- Those are called, one after the other, who ask for all kinds of the event. -/
  handlers : calls.map (·.handler) = m.handlers.filter (·.mask.contains ⟨r.kind⟩)
  map : ∀ call ∈ calls, call.event.source = m.request.map
  member : ∀ call ∈ calls, call.event.member = r.member.bind directory.find?
  kinds : ∀ call ∈ calls, call.event.kinds = ⟨r.kind⟩
  affected : ∀ call ∈ calls, call.event.affected = r.affected
  /-- Whatever parts are read, once or again, by this handler or by those before it, they are what was sent. -/
  parts : ∀ call ∈ calls, ∀ gate : Gate, gate.version = some serializationVersion →
    gate.registry.serializers = registry.serializers →
      ∀ fields, (call.event.readAll gate fields).1 = fields.map fun field => (field, .ok (sent field))

theorem Carries.shows (carries : m.Carries registry r sent) (one : registry.OneToOne) (directory : Directory) :
    m.Shows registry directory r sent (m.reportCalls directory r) := by
  refine ⟨by simp [reportCalls, Function.comp_def], ?_, ?_, ?_, ?_, ?_⟩
  all_goals
    intro call called
    obtain ⟨handler, -, rfl⟩ := List.mem_map.1 called
  · rfl
  · rfl
  · rfl
  · rfl
  · intro gate opened same fields
    have agrees (field) : ((m.event directory r).get field).Agrees registry := by
      rw [get_event]
      exact Lazy.agrees_ofData _ _ registry
    simp only [EntryEvent.readAll_fst opened same agrees, carries.content one]

/-- What comes of a message that a member has sent for a registration: the system calls those who ask for
    it, if the message finds the route of the subscription and the subscription still counts. -/
structure Reaches (m : MapSubscription α) (registry : Registry) (r : EntryReport)
    (sent : EntryField → Option Value) (k : Int64) (message : Message) : Prop where
  event : message.isEvent = true
  /-- If nothing else happens in between. -/
  alone : ∀ (limit : Timespan) (around : Surroundings) past (sys : System Surroundings (EntryCall α)) s sub c,
    Past System.step? (System.new limit around) past sys → sys.subscription? s = some sub →
      sub.listener = m.listener → s ∈ sys.table → sys.route? k = some ⟨s, c⟩ →
        ∃ next calls, [Move.begin (.event c message), .proceed sys.activities.length,
            .proceed sys.activities.length, .proceed sys.activities.length].foldlM System.step? sys = some next ∧
          next.stage? sys.activities.length = some (.call calls) ∧
          m.Shows registry sys.surroundings.directory r sent calls
  /-- If the activity that has found the route has its next turn only after a while. -/
  amid : ∀ (limit : Timespan) (around : Surroundings) past (sys : System Surroundings (EntryCall α)) s sub c,
    Past System.step? (System.new limit around) past sys → sys.subscription? s = some sub →
      sub.listener = m.listener → s ∈ sys.table →
        ∀ earlier lookup later a, past = earlier ++ lookup :: later → lookup.Turns a (.route c k message) →
          lookup.before.route? k = some ⟨s, c⟩ → (∀ e ∈ later, e.move ≠ .proceed a) →
            ∃ next calls, sys.step? (.proceed a) = some next ∧ next.stage? a = some (.call calls) ∧
              m.Shows registry sys.surroundings.directory r sent calls

/-- A message that delivers a report of typed values reaches those who ask for it. -/
theorem Carries.reaches (carries : m.Carries registry r sent) (one : registry.OneToOne) {message : Message} {k : Int64}
    (delivers : message.Delivers true m.selection.eventType k (EntryListener.decodeEvent m.selection) r)
    (something : r.kind ≠ 0) : m.Reaches registry r sent k message := by
  have called {sub : Subscription Surroundings (EntryCall α)} (own : sub.listener = m.listener) (around : Surroundings) :
      sub.listener.calls around message = .ok (m.reportCalls around.directory r) := by
    rw [own]
    exact calls_of_delivers delivers something around
  refine ⟨delivers.event, ?_, ?_⟩
  · intro limit around past sys s sub c run found own listed routed
    have live := ((System.sound_of_past run).kept s sub found).live listed
    obtain ⟨looked, next, begun, taken, -, calls⟩ :=
      System.leadsTo_of_route found listed live delivers.correlation routed (called own _)
    refine ⟨next, _, ?_, calls, carries.shows one _⟩
    rw [show [Move.begin (.event c message), .proceed sys.activities.length, .proceed sys.activities.length,
        .proceed sys.activities.length] = [Move.begin (.event c message), .proceed sys.activities.length,
          .proceed sys.activities.length] ++ [.proceed sys.activities.length] from rfl, List.foldlM_append, begun]
    simp [taken]
  · intro limit around past sys s sub c run found own listed earlier lookup later a split turned routed idle
    have live := ((System.sound_of_past run).kept s sub found).live listed
    have here := System.delivers_of_past run split turned routed idle
    obtain ⟨next, taken, -, calls⟩ := System.step_deliver_calls here found listed live (called own _)
    exact ⟨next, _, taken, calls, carries.shows one _⟩

/-- Whatever registry the values are written with, and at whatever size messages are cut, a report of typed
    values that a member sends for a registration reaches those who ask for it, and shows them what was sent. -/
theorem report_reaches_handlers (m : MapSubscription α) (builtIns : Bool) (serializers : List Serializer)
    (r : EntryReport) (sent : EntryField → Option Value) (k : Int64) (something : r.kind ≠ 0)
    (carries : m.Carries ((Registry.initial builtIns).registerAll serializers).1 r sent) :
    ∃ message, (EntryListener.encodeEvent m.selection r).setCorrelation k = .ok message ∧
      ∀ (limit : Option Nat) (fragmentId : Int64) (d : Decoder), message.wireSize < 2 ^ 31 → d.pending = [] →
        (usesFragmentId limit message → d.find? fragmentId = none) →
        (usesFragmentId limit message → d.fragments.length < d.limit) →
        ∃ bytes arrived, encodeMessage limit fragmentId message = .ok bytes ∧
          d.drain bytes = ⟨[arrived], none, d, []⟩ ∧
          m.Reaches ((Registry.initial builtIns).registerAll serializers).1 r sent k arrived := by
  have one := (Registry.oneToOne_initial builtIns).registerAll serializers
  obtain ⟨message, set, arrives⟩ := (EntryListener.conveys_event m.selection r).arrives k
  refine ⟨message, set, fun limit fragmentId d small boundary fresh room => ?_⟩
  obtain ⟨bytes, arrived, encoded, drained, delivers⟩ := arrives limit fragmentId d small boundary fresh room
  exact ⟨bytes, arrived, encoded, drained, carries.reaches one delivers something⟩

/-- A report of a text under a text, for a handler of entries and one of the whole map, arrives in fragments of at
    most 60 bytes. -/
theorem text_report_reaches_handlers :
    let m : MapSubscription Unit :=
      ⟨⟨"orders", none, none, true, 3, false⟩, [⟨.entry, .added, ()⟩, ⟨.map, .removed, ()⟩, ⟨.map, ⟨3⟩, ()⟩],
        .primitive .text, .primitive .int⟩
    let key : Data := .ofParts (-11) 0 [0, 0, 0, 1, 97]
    let value : Data := .ofParts (-7) 0 [0, 0, 0, 7]
    let r : EntryReport := ⟨some key, some value, none, none, 1, some ⟨1, 2⟩, 1⟩
    let sent : EntryField → Option Value
      | .key => some (.primitive (.text "a"))
      | .value => some (.primitive (.int 7))
      | .oldValue | .mergingValue => none
    let registry := ((Registry.initial true).registerAll []).1
    let d : Decoder := ⟨[], [], 2⟩
    r.kind ≠ 0 ∧ m.Carries registry r sent ∧
      ∃ message bytes arrived, (EntryListener.encodeEvent m.selection r).setCorrelation 5 = .ok message ∧
        usesFragmentId (some 60) message ∧ encodeMessage (some 60) 1 message = .ok bytes ∧
        d.drain bytes = ⟨[arrived], none, d, []⟩ ∧ m.Reaches registry r sent 5 arrived := by
  intro m key value r sent registry d
  have carries : m.Carries registry r sent := by
    refine ⟨?_, ?_, ?_⟩
    · rintro (_ | _ | _ | _) there
      · cases there
      · cases there
      · rfl
      · rfl
    · rintro (_ | _ | _ | _) v there
      · cases there
        exact ⟨rfl, key, rfl, rfl⟩
      · cases there
        exact ⟨rfl, value, rfl, rfl⟩
      · cases there
      · cases there
    · rintro (_ | _ | _ | _) v there
      · cases there
        exact ⟨.ofPrimitive .text, rfl, _, rfl, rfl⟩
      · cases there
        exact ⟨.ofPrimitive .int, rfl, _, rfl, rfl⟩
      · cases there
      · cases there
  obtain ⟨message, set, arrives⟩ := m.report_reaches_handlers true [] r sent 5 (by decide) carries
  have computed : ((EntryListener.encodeEvent m.selection r).setCorrelation 5).toOption.any
      (fun message => message.wireSize < 2 ^ 31 && usesFragmentId (some 60) message) = true := by
    decide +kernel
  obtain ⟨small, cut⟩ : message.wireSize < 2 ^ 31 ∧ usesFragmentId (some 60) message := by
    simpa [set, Except.toOption] using computed
  obtain ⟨bytes, arrived, encoded, drained, reaches⟩ :=
    arrives (some 60) 1 d small rfl (fun _ => by decide) (fun _ => by decide)
  exact ⟨by decide, carries, message, bytes, arrived, set, cut, encoded, drained, reaches⟩

end MapSubscription
end Datagrid
