import Datagrid.Proofs.Event.Arrival
import Datagrid.Proofs.Operation.Readers

/-!
# Rejection: what is no event is dropped whole

A message that is routed to a subscription of a map is read to its end before anyone is called. If it is no event of
the subscription, or a field or a part of the entry cannot be read, nobody is called and it is one error. Whatever it
is, and whatever comes of reading the parts of an entry, the subscription stays as it was, and so does the next event.
-/
namespace Datagrid

/-! ## What a message reports -/

/-- What a frame brings of an entry: nothing if it is null, and otherwise the serialized value that it holds. -/
inductive Frame.Brings (f : Frame) : Option Data → Prop where
  | absent : f.isNull = true → f.Brings none
  | present (d : Data) : f.isStructural = false → f.content = d.octets → f.Brings (some d)

/-- The fixed fields of a report, in the first frame of an event of a selection. -/
structure Selection.Opens (s : Selection) (f : Frame) (r : EntryReport) : Prop where
  type : f.read .int typeOffset = .ok s.eventType
  kind : f.read .int EntryListener.kindOffset = .ok r.kind
  member : f.read .guid EntryListener.memberOffset = .ok r.member
  affected : f.read .int EntryListener.affectedOffset = .ok r.affected

/-- A message reports on an entry: its first frame has the fixed fields, and the four frames behind it bring the
    parts of the entry. Whatever comes after them is not asked for. -/
structure Selection.Reports (s : Selection) (m : Message) (r : EntryReport) : Prop where
  /-- Nobody else is reading the message. -/
  free : m.lent = false
  frames : ∃ first key value oldValue mergingValue rest,
    m.frames = first :: key :: value :: oldValue :: mergingValue :: rest ∧ s.Opens first r ∧ key.Brings r.key ∧
      value.Brings r.value ∧ oldValue.Brings r.oldValue ∧ mergingValue.Brings r.mergingValue

namespace Codec

variable {β : Type} {f : Frame} {part : Option Data} {next : Option Data → OnCursor β} {b : β}

theorem run_part (brings : f.Brings part) (operation : String) (position : Nat) (rest : List Frame) :
    (nullable data).read.run ⟨operation, position, f :: rest⟩ = (.ok part, ⟨operation, position + 1, rest⟩) := by
  cases brings with
  | absent null =>
    have peek : (Cursor.peek ⟨operation, position, f :: rest⟩).any Frame.isNull = true := null
    simp only [nullable, run_bind, Cursor.run_get, if_pos peek, Cursor.skip, Cursor.run_take, Cursor.run_pure]
  | present d plain content =>
    have null : ¬ (Cursor.peek ⟨operation, position, f :: rest⟩).any Frame.isNull = true := by
      simp only [Frame.isStructural, Bool.or_eq_false_iff] at plain
      simp [Cursor.peek, plain.1.1]
    have structural : ¬ f.isStructural = true := by simp [plain]
    have whole : Data.ofOctets f.content = .ok d := by rw [content, Data.ofOctets, dif_pos d.complete]
    simp only [nullable, run_bind, Cursor.run_get, if_neg null, data, Cursor.takeValue, Cursor.run_take,
      if_neg structural, Cursor.run_pure, whole, Cursor.settle]

/-- If a part of an entry is read, it is what the next frame brings. -/
theorem brings_of_run {c c' : Cursor} (read : (nullable data).read.run c = (.ok part, c')) :
    ∃ f rest, c.rest = f :: rest ∧ f.Brings part := by
  have finds := (Shape.nullable .data).finds_codec c
  rw [Cursor.Finds, show (Shape.nullable .data).codec.read.run c = _ from read] at finds
  obtain ⟨parts, passes, laid⟩ := finds
  cases part with
  | none =>
    obtain ⟨f, rfl, null⟩ := laid
    exact ⟨f, c'.rest, passes.rest, .absent null⟩
  | some d =>
    obtain ⟨f, rfl, plain, content⟩ := laid
    exact ⟨f, c'.rest, passes.rest, .present d plain content⟩

theorem run_part_bind {operation : String} {position : Nat} {frames : List Frame} :
    (((nullable data).read >>= next).run ⟨operation, position, frames⟩).1 = .ok b ↔
      ∃ f part rest, frames = f :: rest ∧ f.Brings part ∧
        ((next part).run ⟨operation, position + 1, rest⟩).1 = .ok b := by
  rw [run_bind]
  constructor
  · intro reads
    rcases read : (nullable data).read.run ⟨operation, position, frames⟩ with ⟨fault | part, c⟩
    · simp [read] at reads
    · obtain ⟨f, rest, rfl, brings⟩ := brings_of_run read
      rw [run_part brings] at reads
      exact ⟨f, part, rest, rfl, brings, reads⟩
  · rintro ⟨f, part, rest, rfl, brings, reads⟩
    rwa [run_part brings]

end Codec

theorem Frame.run_field_bind {α β : Type} {f : Frame} {field : Field α} {offset : Nat} {next : α → OnCursor β}
    {c : Cursor} {b : β} :
    ((f.field field offset >>= next).run c).1 = .ok b ↔
      ∃ a, f.read field offset = .ok a ∧ ((next a).run c).1 = .ok b := by
  rw [Frame.field]
  cases f.read field offset with
  | ok a =>
    have reads : (Cursor.settle (.ok a) >>= next).run c = (next a).run c := rfl
    rw [reads]
    simp
  | error fault =>
    have fails : ((Cursor.settle (.error fault) >>= next).run c).1 = .error fault := rfl
    rw [fails]
    simp

/-- An event is read off a message if the message reports it, and only then. -/
theorem EntryListener.inspect_decodeEvent_iff {s : Selection} {m : Message} {r : EntryReport} :
    m.inspect (decodeEvent s) = .ok r ↔ s.Reports m r := by
  simp only [decodeEvent, Message.inspect_reading?_eq_ok_iff, Frame.run_field_bind, Codec.run_part_bind,
    Cursor.run_pure, Except.ok.injEq]
  constructor
  · rintro ⟨free, first, _, frames, type, kind, readKind, member, readMember, affected, readAffected, f, key, _, rfl,
      bringsKey, g, value, _, rfl, bringsValue, h, oldValue, _, rfl, bringsOld, i, merging, rest, rfl, bringsMerging,
      rfl⟩
    exact ⟨free, first, f, g, h, i, rest, frames, ⟨type, readKind, readMember, readAffected⟩, bringsKey, bringsValue,
      bringsOld, bringsMerging⟩
  · rintro ⟨free, first, f, g, h, i, rest, frames, opens, bringsKey, bringsValue, bringsOld, bringsMerging⟩
    exact ⟨free, first, _, frames, opens.type, _, opens.kind, _, opens.member, _, opens.affected, f, _, _, rfl,
      bringsKey, g, _, _, rfl, bringsValue, h, _, _, rfl, bringsOld, i, _, rest, rfl, bringsMerging, rfl⟩

namespace MapSubscription

variable {α : Type} {m : MapSubscription α}

/-! ## What a message leads to -/

/-- The calls that a report leads to. For no kind of event nobody is called. -/
def answers (m : MapSubscription α) (directory : Directory) (r : EntryReport) : List (EntryCall α) :=
  (m.handlers.called ⟨r.kind⟩).map (⟨·, m.event directory r⟩)

theorem answers_of_nothing {r : EntryReport} (nothing : r.kind = 0) (directory : Directory) :
    m.answers directory r = [] := by
  simp [answers, Handlers.called, EventKinds.isNothing, nothing]

/-- A message leads to the calls that it reports, and is refused if it reports nothing. -/
theorem calls_eq_ok_iff {around : Surroundings} {message : Message} {calls : List (EntryCall α)} :
    m.calls around message = .ok calls ↔
      ∃ r, m.selection.Reports message r ∧ calls = m.answers around.directory r := by
  cases event : EntryListener.isEvent m.selection message with
  | false =>
    refine iff_of_false ?_ ?_
    · cases type : message.messageType <;>
        simp [MapSubscription.calls, event, type, bind, Except.bind, throw, throwThe, MonadExceptOf.throw]
    · rintro ⟨r, ⟨-, first, key, value, oldValue, mergingValue, rest, frames, opens, -⟩, -⟩
      have type : message.messageType = .ok m.selection.eventType := by
        rw [Message.messageType, Message.header, frames]
        exact opens.type
      simp [EntryListener.isEvent, type] at event
  | true =>
    simp only [← EntryListener.inspect_decodeEvent_iff]
    cases read : message.inspect (EntryListener.decodeEvent m.selection) with
    | error fault => simp [MapSubscription.calls, event, read, bind, Except.bind]
    | ok r =>
      have answered : m.calls around message = .ok (m.answers around.directory r) := by
        simp only [MapSubscription.calls, event, read, bind, Except.bind]
        rfl
      simp [answered, eq_comm]

/-! ## In a run -/

/-- How a subscription of a map stands, whatever messages are routed to it. -/
structure Withstands (m : MapSubscription α)
    (past : List (Step (System Surroundings (EntryCall α)) (Move Surroundings (EntryCall α))))
    (sys : System Surroundings (EntryCall α)) (s : SubscriptionId) : Prop where
  /-- A message that has found the route is handed over in the next turn of its activity, if the subscription counts. -/
  handed : ∀ a message, sys.stage? a = some (.deliver s message) → s ∈ sys.table →
    ∃ next, sys.step? (.proceed a) = some next ∧ Step.Hands ⟨sys, .proceed a, next⟩ a s message
  /-- If it reports nothing, it is one error in the whole run, nobody is called for it, and its activity is done. -/
  dropped : ∀ e ∈ past, ∀ a message, e.Hands a s message → (∀ r, ¬ m.selection.Reports message r) →
    System.errorsOf past a = 1 ∧ System.callsOf past a = 0 ∧ sys.stage? a = some (.done .finished)
  /-- If it reports on an entry, it is no error, and those who ask for its kinds are called one after the other. -/
  called : ∀ e ∈ past, ∀ a message r, e.Hands a s message → m.selection.Reports message r →
    System.errorsOf past a = 0 ∧
      sys.Calling a (m.answers e.before.surroundings.directory r) (System.callsOf past a)
  nothing : ∀ directory r, r.kind = 0 → m.answers directory r = []
  /-- Whatever comes of reading parts of the entry, those who read it after that, and those who read another, read what
      they would have read. -/
  reads : ∀ directory r gate fields others, let event := m.event directory r
    let after := event.readAll gate fields
    (after.2.1.readAll after.2.2 others).1 = (event.readAll gate others).1 ∧
      ∀ directory' r', ((m.event directory' r').readAll after.2.2 others).1 =
        ((m.event directory' r').readAll gate others).1
  /-- Nothing that is done for a message changes the subscription, its registration or its route. -/
  unchanged : ∀ e ∈ past, e.Attends → e.after.subscriptions = e.before.subscriptions ∧
    e.after.table = e.before.table ∧ e.after.routes = e.before.routes
  /-- So the next one is handed over, and leads to the calls that it reports. -/
  next : ∀ e ∈ past, e.Attends → ∀ c k message, message.correlation = .ok k →
    e.before.route? k = some ⟨s, c⟩ → s ∈ e.before.table → e.after.Dispatches s c message ∧
      ∀ r, m.selection.Reports message r →
        e.after.LeadsTo s c message (m.answers e.after.surroundings.directory r)

/-- Whatever comes of reading parts of an event, it is read as before, and so is another. -/
theorem reads_alike (directory : Directory) (r : EntryReport) (gate : Gate) (fields others : List EntryField) :
    let event := m.event directory r
    let after := event.readAll gate fields
    (after.2.1.readAll after.2.2 others).1 = (event.readAll gate others).1 ∧
      ∀ directory' r', ((m.event directory' r').readAll after.2.2 others).1 =
        ((m.event directory' r').readAll gate others).1 := by
  intro event after
  have alike : gate.Alike after.2.2 := event.readAll_alike gate fields
  have fresh (gate : Gate) (directory : Directory) (r : EntryReport) (field : EntryField) :
      gate.Vouches ((m.event directory r).get field) := by
    rw [get_event]
    exact gate.vouches_ofData _ _
  obtain ⟨-, later⟩ := EntryEvent.readAll_eq_shows (fresh gate directory r) fields
  refine ⟨?_, fun directory' r' => ?_⟩
  · rw [(EntryEvent.readAll_eq_shows (fun field => (later field).1) others).1,
      (EntryEvent.readAll_eq_shows (fresh gate directory r) others).1]
    refine List.map_congr_left fun field _ => ?_
    rw [alike.shows, (later field).2]
  · rw [(EntryEvent.readAll_eq_shows (fresh _ directory' r') others).1,
      (EntryEvent.readAll_eq_shows (fresh gate directory' r') others).1]
    simp only [alike.shows]

section
variable {past : List (Step (System Surroundings (EntryCall α)) (Move Surroundings (EntryCall α)))}
  {sys : System Surroundings (EntryCall α)} {limit : Timespan} {around : Surroundings} {s : SubscriptionId}
  {sub : Subscription Surroundings (EntryCall α)}

theorem withstands_of_past (run : Past System.step? (System.new limit around) past sys)
    (found : sys.subscription? s = some sub) (own : sub.listener = m.listener) : m.Withstands past sys s where
  handed a message here listed := by
    have live := ((System.sound_of_past run).kept s sub found).live listed
    obtain ⟨next, taken, handed, -⟩ := System.step_deliver here found
    exact ⟨next, taken, handed.mpr ⟨listed, live⟩⟩
  dropped e there a message hands silent := by
    obtain ⟨earlier, later, split⟩ := List.append_of_mem there
    obtain ⟨old, before⟩ := hands.found
    cases made : old.listener.calls e.before.surroundings message with
    | ok calls =>
      rw [System.listener_before run there before found, own] at made
      obtain ⟨r, reports, -⟩ := calls_eq_ok_iff.mp made
      exact absurd reports (silent r)
    | error fault => exact System.refused_of_past run split hands before made
  called e there a message r hands reports := by
    obtain ⟨earlier, later, split⟩ := List.append_of_mem there
    obtain ⟨old, before⟩ := hands.found
    refine System.called_of_past run split hands before ?_
    rw [System.listener_before run there before found, own]
    exact calls_eq_ok_iff.mpr ⟨r, reports, rfl⟩
  nothing directory r nothing := answers_of_nothing nothing directory
  reads directory r gate fields others := reads_alike directory r gate fields others
  unchanged e there attends := by
    obtain ⟨earlier, -, taken⟩ := run.mem there
    exact System.unchanged_of_attends taken attends
  next e there attends c k message read routed listed := by
    obtain ⟨earlier, upto, taken⟩ := run.mem there
    have sound := System.sound_of_past upto
    obtain ⟨subscriptions, table, routes⟩ := System.unchanged_of_attends taken attends
    obtain ⟨old, before⟩ := System.subscription?_of_lt (sound.listed s listed)
    have live := (sound.kept s old before).live listed
    have after : e.after.subscription? s = some old := by rwa [System.subscription?, subscriptions]
    have routed' : e.after.route? k = some ⟨s, c⟩ := by rwa [System.route?, routes]
    have listed' : s ∈ e.after.table := by rwa [table]
    refine ⟨(System.dispatches_iff after read).mpr ⟨routed', listed', live⟩, fun r reports => ?_⟩
    refine System.leadsTo_of_route after listed' live read routed' ?_
    rw [System.listener_before run there before found, own]
    exact calls_eq_ok_iff.mpr ⟨r, reports, rfl⟩

end

/-- A subscription to all entries of a map, with a handler for those that are added. -/
def additions : MapSubscription Unit := { World.orders with handlers := [⟨.entry, .added, ()⟩] }

/-- An event of the first correlation id that tells of an addition. -/
def addition (value : Frame) : Message :=
  let fields := Field.int.encode anyPartition ++ Field.int.encode 1 ++ Field.guid.encode none ++ Field.int.encode 1
  .received [.headed true Selection.all.eventType 1 fields, .ofContent (List.replicate 9 0), value, .absent, .absent]

/-- A connection is there, and someone subscribes. -/
def subscribed : List (Move Surroundings (EntryCall Unit)) :=
  [.use (some 0), .begin (.subscribe additions.listener none), .proceed 0]

/-- The subscription is registered. An event comes whose value has no header, and then one without a value, for which
    the handler is called. -/
def additionsHeard : List (Move Surroundings (EntryCall Unit)) :=
  [.proceed 0, .proceed 0, .proceed 0, .send 0, .answer 0 (World.granting 1), .proceed 0,
    .begin (.event 0 (addition (.ofContent [7]))), .proceed 1, .proceed 1, .proceed 1,
    .begin (.event 0 (addition .absent)), .proceed 2, .proceed 2, .proceed 2, .called 2]

theorem event_after_bad_one_is_heard :
    ∃ (past : _) (sys : System Surroundings (EntryCall Unit)) (sub : Subscription Surroundings (EntryCall Unit)),
      Past System.step? (System.new (.ofSeconds 60) ⟨.closed .standard, .empty⟩) past sys ∧
        past.map Step.move = subscribed ++ additionsHeard ∧ System.callsOf past 1 = 0 ∧ System.callsOf past 2 = 1 ∧
        sys.subscription? 0 = some sub ∧ sub.listener = additions.listener ∧
        (∀ r, ¬ additions.selection.Reports (addition (.ofContent [7])) r) ∧
        sys.counts = { messages := 2, dispatched := 2, errors := 1, reinstalls := 0 } ∧
        additions.Withstands past sys 0 := by
  let start : System Surroundings (EntryCall Unit) := System.new (.ofSeconds 60) ⟨.closed .standard, .empty⟩
  let asking := ({ start with current := some 0 }.begin (.subscribe additions.listener none)).2
  obtain ⟨request, asked⟩ : ∃ request, additions.listener.request = .ok request :=
    EntryListener.encodeRequest_of_fits (s := additions.selection) (r := additions.request) rfl
  have done : (subscribed ++ additionsHeard).foldlM System.step? start |>.any fun sys =>
      sys.counts == { messages := 2, dispatched := 2, errors := 1, reinstalls := 0 } := by
    decide +kernel
  rw [Option.any_eq_true] at done
  obtain ⟨sys, done, counted⟩ := done
  have opened : subscribed.foldlM System.step? start = some (asking.create 0 additions.listener request none) := by
    have turned : asking.step? (.proceed 0) = some (asking.create 0 additions.listener request none) := by
      simp [asking, start, System.step?, System.proceed, System.stage?, System.begin, System.new, Stage.subscription?,
        System.proceedAlone, System.isFired, asked]
    show (asking.step? (.proceed 0) >>= pure) = _
    rw [turned]
    rfl
  rw [List.foldlM_append, opened] at done
  obtain ⟨past, upto, first⟩ := Past.of_moves opened
  obtain ⟨more, goesOn, rest⟩ := Past.of_moves done
  have run := upto.append goesOn
  have moves : (past ++ more).map Step.move = subscribed ++ additionsHeard := by rw [List.map_append, first, rest]
  have created : (asking.create 0 additions.listener request none).subscription? 0 =
      some (System.created 0 additions.listener request) := rfl
  obtain ⟨sub, found, own, -⟩ := System.listener_since goesOn created
  refine ⟨_, sys, sub, run, moves, ?_, ?_, found, own, ?_, eq_of_beq counted, withstands_of_past run found own⟩
  · rw [System.callsOf_eq, moves]
    rfl
  · rw [System.callsOf_eq, moves]
    rfl
  · intro r reports
    have refused :
        (additions.calls ⟨.closed .standard, .empty⟩ (addition (.ofContent [7]))).toOption.isSome = false := by
      decide +kernel
    rw [calls_eq_ok_iff.mpr ⟨r, reports, rfl⟩] at refused
    cases refused

end MapSubscription
end Datagrid
