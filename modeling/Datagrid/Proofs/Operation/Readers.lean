import Datagrid.Operation.Authentication
import Datagrid.Operation.EntryListener
import Datagrid.Operation.ListenerRemoval
import Datagrid.Operation.Statistics
import Datagrid.Proofs.Operation.Opening
import Datagrid.Proofs.Wire.Extensions

/-!
# Readers of operations

There is a reader for the requests, the responses and the events of every operation. Whatever
message it is given, it finds a value or a fault in the message, and it gives the frames back. And
what it finds does not change if the message goes on, in its first frame or after its last one.
-/
namespace Datagrid

variable {α β : Type}

/-! ## What is read behind the first frame -/

/-- A fault lies in a message. -/
def Fault.InMessage (fault : Fault) : Prop := (∃ cause, fault = .framing cause) ∨ ∃ cause, fault = .protocol cause

theorem Frame.inMessage_of_read {f : Frame} {field : Field α} {offset : Nat} {fault : Fault}
    (fails : f.read field offset = .error fault) : fault.InMessage := by
  unfold Frame.read Field.read at fails
  split at fails <;> cases fails
  exact .inl ⟨_, rfl⟩

namespace Cursor

/-- A reader fails for faults in a message, and what it reads, another one does where more follows. -/
structure Robust (body body' : OnCursor α) : Prop where
  faults : ∀ ⦃c fault c'⦄, body.run c = (.error fault, c') → fault.InMessage
  keeps : Keeps body body'

namespace Robust

variable {next next' : α → OnCursor β}

theorem pure (a : α) : Robust (Pure.pure a : OnCursor α) (Pure.pure a) := ⟨nofun, .pure a⟩

theorem fail {fault : Fault} (inside : fault.InMessage) : Robust (throw fault : OnCursor α) (throw fault) where
  faults := by
    rintro c _ _ ⟨⟩
    exact inside
  keeps := .fail fault

theorem bind {body body' : OnCursor α} (first : Robust body body') (second : ∀ a, Robust (next a) (next' a)) :
    Robust (body >>= next) (body' >>= next') where
  faults := by
    intro c fault c'' fails
    rw [run_bind] at fails
    rcases ran : body.run c with ⟨early | a, c'⟩
    · rw [ran] at fails
      cases fails
      exact first.faults ran
    · rw [ran] at fails
      exact (second a).faults fails
  keeps := first.keeps.bind fun a => (second a).keeps

/-- Fields of the first frame are read first. -/
theorem field (f : Frame) (extra : Octets) (field : Field α) (offset : Nat) :
    Robust (f.field field offset) ((f.extended extra).field field offset) where
  faults := by
    intro c fault c' fails
    unfold Frame.field at fails
    cases read : f.read field offset with
    | ok a =>
      rw [read] at fails
      cases fails
    | error cause =>
      rw [read] at fails
      cases fails
      exact Frame.inMessage_of_read read
  keeps := .settle fun _ read => Frame.read_extended read extra

theorem value (shape : Shape) : Robust shape.codec.read shape.codec.read where
  faults _ _ _ fails := .inl (shape.framed_of_read fails)
  keeps := shape.keeps_codec

theorem readFilter (present : Bool) :
    Robust (EntryListener.readFilter present) (EntryListener.readFilter present) := by
  cases present with
  | false => exact .pure none
  | true => exact .bind (.value .data) fun d => .pure (some d)

end Robust
end Cursor

/-! ## Messages of a type -/

namespace Message

variable {type : Int32} {body : Frame → OnCursor α} {m : Message}

/-- A message of another type is refused. -/
theorem of_type_or_refused (type : Int32) (body : Frame → OnCursor α) (m : Message) :
    (∃ f rest, m.frames = f :: rest ∧ f.read .int typeOffset = .ok type) ∨
      ∃ fault : Fault, fault.InMessage ∧ (reading? type body).run m = (.error fault, m) := by
  cases typed : m.messageType with
  | error fault =>
    have refused : (reading? type body).run m = (.error fault, m) := by simp only [reading?, ExceptT.run, typed]
    refine .inr ⟨fault, ?_, refused⟩
    unfold messageType header at typed
    split at typed
    · cases typed
      exact .inl ⟨_, rfl⟩
    · exact Frame.inMessage_of_read typed
  | ok actual =>
    by_cases same : actual = type
    · subst same
      unfold messageType header at typed
      split at typed
      · cases typed
      next f rest frames => exact .inl ⟨f, rest, frames, typed⟩
    · have refused : (reading? type body).run m = (.error (typeFault type actual), m) := by
        simp only [reading?, ExceptT.run, typed, if_neg same]
      exact .inr ⟨_, .inr ⟨_, rfl⟩, refused⟩

theorem inspect_reading?_eq_ok_iff {a : α} :
    m.inspect (reading? type body) = .ok a ↔
      m.lent = false ∧ ∃ f rest, m.frames = f :: rest ∧ f.read .int typeOffset = .ok type ∧
        ((body f).run ⟨m.operation, 1, rest⟩).1 = .ok a := by
  rw [inspect]
  constructor
  · intro reads
    obtain ⟨f, rest, frames, typed⟩ | ⟨fault, -, refused⟩ := of_type_or_refused type body m
    · rw [run_reading?_of_type frames typed] at reads
      cases free : m.lent with
      | true => simp [free] at reads
      | false => exact ⟨rfl, f, rest, frames, typed, by simpa [free] using reads⟩
    · simp [refused] at reads
  · rintro ⟨free, f, rest, frames, typed, reads⟩
    simpa [run_reading?_of_type frames typed, free] using reads

/-- A message that nobody reads is left as it was, and a fault that is found is one in the message. -/
theorem run_reading? (type : Int32) (free : m.lent = false)
    (faults : ∀ f ⦃c fault c'⦄, (body f).run c = (.error fault, c') → fault.InMessage) :
    ∃ result, (reading? type body).run m = (result, m) ∧ ∀ fault, result = .error fault → fault.InMessage := by
  obtain ⟨f, rest, frames, typed⟩ | ⟨fault, inside, refused⟩ := of_type_or_refused type body m
  · refine ⟨_, (run_reading?_of_type frames typed).trans (if_neg (by simp [free])), fun fault fails => ?_⟩
    exact faults f (Prod.ext fails rfl)
  · refine ⟨_, refused, ?_⟩
    rintro _ ⟨⟩
    exact inside

end Message

/-- A message that goes on, in its first frame and after its last one. -/
def Message.extended (m : Message) (extra : Octets) (more : List Frame) : Message :=
  { m with frames := m.frames.modifyHead (·.extended extra) ++ more }

/-! ## Readers -/

/-- What is to be read of a message. -/
inductive Reader where
  | authenticationRequest
  | authenticationResponse
  | statisticsRequest
  | statisticsResponse
  | removalRequest
  | removalResponse
  | listenerRequest (s : Selection)
  | listenerResponse (s : Selection)
  | event (s : Selection)
  deriving DecidableEq

namespace Reader

open Cursor (Robust)

abbrev Value : Reader → Type
  | authenticationRequest => AuthenticationRequest
  | authenticationResponse => AuthenticationResponse
  | statisticsRequest => StatisticsRequest
  | statisticsResponse => Unit
  | removalRequest => String × Option Uuid
  | removalResponse => Bool
  | listenerRequest _ => ListenerRequest
  | listenerResponse _ => Uuid
  | event _ => EntryReport

def decode : (r : Reader) → OnMessage r.Value
  | authenticationRequest => Authentication.decodeRequest
  | authenticationResponse => Authentication.decodeResponse
  | statisticsRequest => Statistics.decodeRequest
  | statisticsResponse => Statistics.decodeResponse
  | removalRequest => ListenerRemoval.decodeRequest
  | removalResponse => ListenerRemoval.decodeResponse
  | listenerRequest s => EntryListener.decodeRequest s
  | listenerResponse s => EntryListener.decodeResponse s
  | event s => EntryListener.decodeEvent s

/-- Every reader looks at the type of a message and reads its first frame, and then what is behind it. -/
theorem exists_robust (r : Reader) :
    ∃ (type : Int32) (body : Frame → OnCursor r.Value), r.decode = Message.reading? type body ∧
      ∀ f extra, Robust (body f) (body (f.extended extra)) := by
  cases r with
  | authenticationRequest =>
    refine ⟨_, _, rfl, fun f extra => ?_⟩
    refine .bind (.field f extra _ _) fun uuid => .bind (.field f extra _ _) fun version => ?_
    refine .bind (.value .text) fun clusterName => .bind (.value .bytes) fun credentials => ?_
    refine .bind (.value .text) fun clientType => .bind (.value .text) fun clientVersion => ?_
    exact .bind (.value .text) fun clientName => .bind (.value (.list .text)) fun labels => .pure _
  | authenticationResponse =>
    refine ⟨_, _, rfl, fun f extra => ?_⟩
    refine .bind (.field f extra _ _) fun status => .bind (.field f extra _ _) fun member => ?_
    refine .bind (.field f extra _ _) fun version => .bind (.field f extra _ _) fun partitions => ?_
    refine .bind (.field f extra _ _) fun cluster => .bind (.field f extra _ _) fun failover => ?_
    exact .bind (.value (.nullable .address)) fun address => .bind (.value .text) fun serverVersion => .pure _
  | statisticsRequest =>
    refine ⟨_, _, rfl, fun f extra => ?_⟩
    refine .bind (.field f extra _ _) fun timestamp => ?_
    exact .bind (.value .text) fun attributes => .bind (.value .bytes) fun metrics => .pure _
  | statisticsResponse => exact ⟨_, _, rfl, fun f extra => .pure ()⟩
  | removalRequest =>
    refine ⟨_, _, rfl, fun f extra => ?_⟩
    exact .bind (.field f extra _ _) fun registration => .bind (.value .text) fun map => .pure _
  | removalResponse => exact ⟨_, _, rfl, fun f extra => .field f extra _ _⟩
  | listenerRequest s =>
    refine ⟨_, _, rfl, fun f extra => ?_⟩
    refine .bind (.field f extra _ _) fun includeValue => .bind (.field f extra _ _) fun interest => ?_
    refine .bind (.field f extra _ _) fun localOnly => .bind (.value .text) fun map => ?_
    exact .bind (.readFilter _) fun key => .bind (.readFilter _) fun predicate => .pure _
  | listenerResponse s =>
    refine ⟨_, _, rfl, fun f extra => .bind (.field f extra _ _) fun registration => ?_⟩
    cases registration with
    | some registration => exact .pure registration
    | none => exact .fail (.inr ⟨_, rfl⟩)
  | event s =>
    refine ⟨_, _, rfl, fun f extra => ?_⟩
    refine .bind (.field f extra _ _) fun kind => .bind (.field f extra _ _) fun member => ?_
    refine .bind (.field f extra _ _) fun affected => .bind (.value (.nullable .data)) fun key => ?_
    refine .bind (.value (.nullable .data)) fun value => .bind (.value (.nullable .data)) fun oldValue => ?_
    exact .bind (.value (.nullable .data)) fun mergingValue => .pure _

/-- What there is to say of a reader that is given a message. -/
structure Settles (r : Reader) (m : Message) : Prop where
  /-- If it finds no value, that is for a fault in the message. -/
  faults : ∀ fault, m.inspect r.decode = .error fault → fault.InMessage
  /-- It gives the frames back, whatever it finds. -/
  released : (r.decode.run m).2.lent = false
  /-- Whoever reads the message then finds what there was to find before. -/
  again : ∀ other : Reader, other.decode.run (r.decode.run m).2 = other.decode.run m

theorem settles (r : Reader) {m : Message} (free : m.lent = false) : r.Settles m := by
  obtain ⟨type, body, decode, robust⟩ := r.exists_robust
  obtain ⟨result, ran, faults⟩ := Message.run_reading? type free fun f => (robust f []).faults
  rw [← decode] at ran
  exact ⟨fun fault fails => faults fault (by rwa [Message.inspect, ran] at fails), by rw [ran]; exact free,
    fun other => by rw [ran]⟩

/-- Whatever the frames of a message are like, a reading among them, of a value of any shape, ends at a later place
    with the value or for a fault in them, and the loops on its way end by themselves. So every reader of a message
    that nobody reads finds a value or a fault in it, and leaves it to whoever reads it next. -/
theorem malformed_messages_are_refused :
    (∀ (shape : Shape) (operation : String) (frames : List Frame) (p : Nat), p ≤ frames.length →
      shape.Ends operation frames p) ∧
    (∀ (item : Shape) (c : Cursor), ∃ rounds ≤ c.rest.length, ∃ result c',
      (Cursor.takeItems item.codec.read (c.rest.length + 1)).run c = (result, c') ∧
        Cursor.Rounds item.codec.read rounds c result c') ∧
    ∀ (r : Reader) (m : Message), m.lent = false → r.Settles m :=
  ⟨fun shape operation _ _ inside => shape.ends_inside operation inside, Shape.rounds_items,
    fun r _ free => r.settles free⟩

/-- A list whose end frame is missing, and an error that a member answers with. -/
theorem endless_list_and_error_are_refused :
    let frames : List Frame := [.openStructure, .ofContent [97]]
    let m : Message := .received [.zeroed 16 .unfragmented]
    0 ≤ frames.length ∧ m.lent = false ∧
      (Shape.list .text).codec.read.run (.reached "" frames 0) =
        (.error (.framing .noListEnd), .reached "" frames 2) ∧
      authenticationResponse.decode.run m = (.error (.protocol (.memberError Authentication.responseType)), m) ∧
      (Shape.list .text).Ends "" frames 0 ∧ authenticationResponse.Settles m := by
  intro frames m
  obtain ⟨ends, -, settles⟩ := malformed_messages_are_refused
  exact ⟨by decide, rfl, rfl, rfl, ends _ "" frames 0 (by decide), settles _ m rfl⟩

/-! ## Messages that go on -/

/-- What a reader finds in a message it finds where further bytes follow in the first frame, and further frames after
    the last one. -/
theorem inspect_extended {r : Reader} {m : Message} {a : r.Value} (reads : m.inspect r.decode = .ok a)
    (extra : Octets) (more : List Frame) : (m.extended extra more).inspect r.decode = .ok a := by
  obtain ⟨type, body, decode, robust⟩ := r.exists_robust
  rw [decode, Message.inspect_reading?_eq_ok_iff] at reads ⊢
  obtain ⟨free, f, rest, frames, typed, reads⟩ := reads
  refine ⟨free, f.extended extra, rest ++ more, ?_, Frame.read_extended typed extra, ?_⟩
  · rw [Message.extended, frames]
    rfl
  · rcases ran : (body f).run ⟨m.operation, 1, rest⟩ with ⟨result, c⟩
    obtain rfl : result = .ok a := by rwa [ran] at reads
    exact congrArg Prod.fst ((robust f extra).keeps ran more)

/-- Whatever a newer member adds to the addresses of a value, of any shape and at any depth, the value is read as it
    was, to its very end: what is added is balanced, which is to say that its structures are nested. A structure is
    closed by the first frame at which end frames outnumber those that open one, and it is a fault if there is none.
    So is a message read as it was whatever follows in its first frame and after its last one. -/
theorem newer_fields_are_passed_over :
    (∀ (shape : Shape) (a : shape.Value) (frames : List Frame), shape.Grown a frames →
      Cursor.Takes shape.codec.read frames a) ∧
    (∀ added, Nested added ↔ Balanced added) ∧
    (∀ c c', Cursor.closeStructure.run c = (.ok (), c') ↔
      ∃ before f, c.Skips (before ++ [f]) c' ∧ (∀ front, front <+: before → ¬ EndsOutnumber front) ∧
        EndsOutnumber (before ++ [f])) ∧
    (∀ c, (∃ framing c', Cursor.closeStructure.run c = (.error (.framing framing), c')) ↔
      ∀ front, front <+: c.rest → ¬ EndsOutnumber front) ∧
    ∀ (r : Reader) (m : Message) (a : r.Value), m.inspect r.decode = .ok a →
      ∀ extra more, (m.extended extra more).inspect r.decode = .ok a :=
  ⟨fun _ _ _ grown => grown.takes, fun _ => nested_iff_balanced, fun _ _ => Cursor.closeStructure_eq_ok_iff,
    fun _ => Cursor.closeStructure_fails_iff, fun _ _ _ reads => inspect_extended reads⟩

/-- An address in a list that has grown by two bytes and by structures inside structures and empty ones, and a report
    that goes on in its first frame and after its last one. -/
theorem grown_address_is_read :
    let added : List Frame := [.openStructure, .closeStructure, .openStructure, .ofContent [97], .openStructure,
      .closeStructure, .closeStructure]
    let grown : List Frame := .openStructure :: .ofContent (Field.int.encode 5 ++ [1, 2]) ::
      .ofContent (Text.Utf8.encode "h") :: (added ++ [.closeStructure])
    let frames : List Frame := .openStructure :: ([grown, [.absent]].flatten ++ [.closeStructure])
    let shape : Shape := .list (.nullable .address)
    let r : StatisticsRequest := ⟨5, "a", [1]⟩
    let m : Message := .received
      [.ofRequest Statistics.requestType (Field.long.encode 5), .ofContent [97], .ofContent [1]]
    shape.Grown [some ⟨"h", 5⟩, none] frames ∧ m.inspect statisticsRequest.decode = .ok r ∧
      shape.codec.read.run ⟨"", 0, frames ++ [.absent]⟩ = (.ok [some ⟨"h", 5⟩, none], ⟨"", 14, [.absent]⟩) ∧
      (m.extended [7] [.absent]).inspect statisticsRequest.decode = .ok r := by
  intro added grown frames shape r m
  obtain ⟨takes, nests, -, -, reads⟩ := newer_fields_are_passed_over
  have nested : Nested added :=
    .enclosed rfl .nil rfl (.enclosed rfl (.plain rfl rfl (.enclosed rfl .nil rfl .nil)) rfl .nil)
  have first : Shape.Grown (.nullable .address) (some ⟨"h", 5⟩) grown :=
    ⟨⟨[1, 2], added, (nests added).mp nested, rfl⟩, by simp [grown]; decide⟩
  have second : Shape.Grown (.nullable .address) none [.absent] := (Shape.nullable .address).grown_frames rfl none
  have whole : shape.Grown [some ⟨"h", 5⟩, none] frames := ⟨_, .cons first (.cons second .nil), rfl⟩
  have sent : m.inspect statisticsRequest.decode = .ok r := rfl
  exact ⟨whole, sent, takes shape _ frames whole (.refl frames) "" 0 [.absent],
    reads statisticsRequest m r sent [7] [.absent]⟩

end Reader

/-- A frame that is marked as a begin and as an end. -/
def Frame.beginAndEnd : Frame := .ofFlags (Flags.beginStructure.set .endStructure)

/-- Such a frame closes a structure: among the frames of an address it is taken for the last, although there are no
    more ends than begins up to it. -/
theorem both_marks_close_a_structure :
    Frame.beginAndEnd.isBegin = true ∧ Frame.beginAndEnd.isEnd = true ∧
      (∀ front, front <+: [Frame.beginAndEnd] → ¬ front.countP Frame.isBegin < front.countP Frame.isEnd) ∧
      [Frame.beginAndEnd].countP Frame.isEnd = [Frame.beginAndEnd].countP Frame.isBegin ∧
      Codec.address.read.run ⟨"", 0, [.openStructure, .ofContent (Field.int.encode 5), .ofContent [104],
        .beginAndEnd, .closeStructure]⟩ = (.ok ⟨"h", 5⟩, ⟨"", 4, [.closeStructure]⟩) ∧
      Cursor.closeStructure.run ⟨"", 0, [.beginAndEnd, .closeStructure]⟩ = (.ok (), ⟨"", 1, [.closeStructure]⟩) := by
  refine ⟨rfl, rfl, fun front before => ?_, rfl, rfl, rfl⟩
  rcases List.prefix_cons_iff.mp before with rfl | ⟨_, rfl, none⟩
  · decide
  · obtain rfl := List.prefix_nil.mp none
    decide

end Datagrid
