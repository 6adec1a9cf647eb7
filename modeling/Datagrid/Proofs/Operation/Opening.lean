import Datagrid.Operation.Header
import Datagrid.Proofs.Wire.RoundTrip
import Datagrid.Proofs.Wire.Values

/-!
# Messages of operations

The first frame of every message begins with its type and its correlation id, whatever fields
follow. A message conveys a value if the fields and the frames behind the first one read back as
the value: it then does so under any correlation id and after any way over the wire.
-/
namespace Datagrid

/-! ## First frames -/

namespace Frame

/-- The flags of the first frame of an event, or of any other message. -/
def openingFlags (event : Bool) : Flags :=
  if event then Flags.unfragmented.set .isEvent else .unfragmented

/-- The first frame of a message of a type, with a correlation id and whatever follows it. -/
def headed (event : Bool) (type : Int32) (id : Int64) (fields : Octets) : Frame :=
  ⟨openingFlags event, Field.int.encode type ++ (Field.long.encode id ++ fields)⟩

/-- What follows the correlation id in the first frame of a message. -/
def fields (f : Frame) : Octets := f.content.drop (correlationOffset + Field.long.width)

section
variable {type : Int32} {fields : Octets}

theorem ofRequest_eq : ofRequest type fields = headed false type 0 (Field.int.encode anyPartition ++ fields) := by
  simp [ofRequest, opening, headed, openingFlags]

theorem ofEvent_eq : ofEvent type fields = headed true type 0 (Field.int.encode anyPartition ++ fields) := by
  simp [ofEvent, opening, headed, openingFlags]

theorem ofResponse_eq : ofResponse type fields = headed false type 0 (Field.byte.encode 0 ++ fields) := by
  simp [ofResponse, headed, openingFlags]

end

section
variable {f : Frame} {event : Bool} {type : Int32} {id : Int64} {fields : Octets}

theorem read_type (content : f.content = (headed event type id fields).content) :
    f.read .int typeOffset = .ok type := by
  have here : f.content.drop typeOffset = Field.int.encode type ++ (Field.long.encode id ++ fields) := by
    rw [content]
    rfl
  exact Field.read_of_drop here (by decide)

theorem drop_correlation (content : f.content = (headed event type id fields).content) :
    f.content.drop correlationOffset = Field.long.encode id ++ fields := by
  have here : f.content.drop typeOffset = Field.int.encode type ++ (Field.long.encode id ++ fields) := by
    rw [content]
    rfl
  exact Field.drop_of_drop here

theorem read_correlation (content : f.content = (headed event type id fields).content) :
    f.read .long correlationOffset = .ok id :=
  Field.read_of_drop (drop_correlation content) (by decide)

theorem fields_eq (content : f.content = (headed event type id fields).content) : f.fields = fields :=
  Field.drop_of_drop (drop_correlation content)

/-- The fields of a request or of an event follow the partition. -/
theorem drop_partition (header : f.fields = Field.int.encode anyPartition ++ fields) :
    f.content.drop requestHeaderSize = fields :=
  Field.drop_of_drop header

/-- The fields of a response follow the number of backups. -/
theorem drop_backupAcks (header : f.fields = Field.byte.encode 0 ++ fields) :
    f.content.drop responseHeaderSize = fields :=
  Field.drop_of_drop header

theorem isUnfragmented_headed : (headed event type id fields).isUnfragmented = true := by
  cases event
  · exact (by decide : Flags.unfragmented.hasAll .unfragmented = true)
  · exact (by decide : (Flags.unfragmented.set .isEvent).hasAll .unfragmented = true)

theorem isFinal_headed : (headed event type id fields).isFinal = false := by
  cases event
  · exact (by decide : Flags.unfragmented.has .isFinal = false)
  · exact (by decide : (Flags.unfragmented.set .isEvent).has .isFinal = false)

theorem isEvent_headed : (headed event type id fields).isEvent = event := by
  cases event
  · exact (by decide : Flags.unfragmented.has .isEvent = false)
  · exact (by decide : (Flags.unfragmented.set .isEvent).has .isEvent = true)

end
end Frame

/-- A message takes any correlation id in its first frame. -/
theorem Message.setCorrelation_headed {m : Message} {event : Bool} {type : Int32} {old : Int64} {fields : Octets}
    {rest : List Frame} (frames : m.frames = .headed event type old fields :: rest) (id : Int64) :
    m.setCorrelation id = .ok { m with frames := .headed event type id fields :: rest } := by
  have written : Field.long.write (Frame.headed event type old fields).content correlationOffset id =
      .ok (Frame.headed event type id fields).content :=
    Field.write_append (Field.int.encode type) fields old id (by simp [Field.long, UInt64.size])
  simp only [setCorrelation, setHeader, frames, Frame.write, written]
  rfl

/-! ## Readers of operations -/

/-- A field of the first frame is read where its bytes begin, and what follows it stands behind it. -/
theorem Cursor.Takes.field {α β : Type} {next : α → OnCursor β} {frames : List Frame} {b : β} {f : Frame}
    {field : Field α} [Field.Lawful field] {offset : Nat} {a : α} {right : Octets}
    (here : f.content.drop offset = field.encode a ++ right) (fits : offset + field.width < UInt64.size)
    (onward : f.content.drop (offset + field.width) = right → Takes (next a) frames b) :
    Takes (f.field field offset >>= next) frames b :=
  (Takes.settle (Field.read_of_drop here fits)).bind (onward (Field.drop_of_drop here))

/-- The last field of the first frame is followed by nothing. -/
theorem Cursor.Takes.lastField {α β : Type} {next : α → OnCursor β} {frames : List Frame} {b : β} {f : Frame}
    {field : Field α} [Field.Lawful field] {offset : Nat} {a : α} (here : f.content.drop offset = field.encode a)
    (fits : offset + field.width < UInt64.size) (onward : Takes (next a) frames b) :
    Takes (f.field field offset >>= next) frames b :=
  .field (here.trans (List.append_nil _).symm) fits fun _ => onward

/-! ## Messages that convey a value -/

namespace Message

variable {α : Type} {m : Message} {event : Bool} {type : Int32} {id : Int64} {fields : Octets} {rest : List Frame}
  {decode : OnMessage α} {a : α}

/-- A message of the type is read behind its first frame, unless somebody reads it already. -/
theorem run_reading?_of_type {body : Frame → OnCursor α} {f : Frame} (frames : m.frames = f :: rest)
    (typed : f.read .int typeOffset = .ok type) :
    (reading? type body).run m =
      if m.lent then (.error (.protocol (.lent m.operation)), m)
      else (((body f).run ⟨m.operation, 1, rest⟩).1, m) := by
  have actual : m.messageType = .ok type := by
    rw [messageType, header, frames]
    exact typed
  have ran : (reading? type body).run m = (reading (do body (← Cursor.take))).run m := by
    simp only [reading?, ExceptT.run, actual, if_true]
  obtain ⟨operation, retryable, isSealed, lent, _⟩ := m
  obtain rfl := frames
  rw [ran]
  cases lent with
  | true => rfl
  | false =>
    show (((do body (← Cursor.take)).run ⟨operation, 0, f :: rest⟩).1, _) = _
    rw [run_bind, Cursor.run_take]
    rfl

/-- A message conveys a value to a reader of messages of its type. -/
inductive Conveys (m : Message) (event : Bool) (type : Int32) (decode : OnMessage α) (a : α) : Prop
  | intro {body : Frame → OnCursor α} {fields : Octets} {rest : List Frame}
    (frames : m.frames = .headed event type 0 fields :: rest)
    (unmarked : ∀ f ∈ rest, f.isFinal = false)
    (reader : decode = reading? type body)
    (taken : ∀ f : Frame, f.fields = fields → Cursor.Takes (body f) rest a)

/-- A message delivers a value under a type and a correlation id. -/
structure Delivers (m : Message) (event : Bool) (type : Int32) (id : Int64) (decode : OnMessage α) (a : α) :
    Prop where
  value : m.inspect decode = .ok a
  type : m.messageType = .ok type
  correlation : m.correlation = .ok id
  event : m.isEvent = event

theorem delivers_of_arrive {body : Frame → OnCursor α} (free : m.lent = false)
    (arrive : Arrive (.headed event type id fields :: rest) m.frames)
    (taken : ∀ f : Frame, f.fields = fields → Cursor.Takes (body f) rest a) :
    m.Delivers event type id (reading? type body) a := by
  obtain ⟨first, others, arrives, arrive, frames⟩ := List.forall₂_cons_left_iff.mp arrive
  have typed : m.messageType = .ok type := by
    rw [messageType, header, frames]
    exact Frame.read_type arrives.content
  refine ⟨?_, typed, ?_, ?_⟩
  · have read := taken first (Frame.fields_eq arrives.content) arrive m.operation 1 []
    rw [List.append_nil] at read
    rw [inspect, run_reading?_of_type frames (Frame.read_type arrives.content), if_neg (by simp [free])]
    exact congrArg Prod.fst read
  · rw [correlation, header, frames]
    exact Frame.read_correlation arrives.content
  · rw [isEvent, frames, List.head?_cons, Option.any_some, arrives.isEvent, Frame.isEvent_headed]

theorem wellFormed_headed (frames : m.frames = .headed event type id fields :: rest)
    (unmarked : ∀ f ∈ rest, f.isFinal = false) (small : m.wireSize < 2 ^ 31) : m.WellFormed := by
  obtain ⟨body, last, split⟩ := List.eq_nil_or_concat' m.frames |>.resolve_left (by simp [frames])
  have all : ∀ f ∈ m.frames, f.isFinal = false := by
    rw [frames, List.forall_mem_cons]
    exact ⟨Frame.isFinal_headed, unmarked⟩
  refine wellFormed_of_small split ?_ (fun f member => all f (by simp [split, member])) small
  rw [frames]
  exact Frame.isUnfragmented_headed

/-- A message that conveys a value takes any correlation id, and then what is sent of it arrives,
    at whatever size messages are cut, and delivers the value. -/
theorem Conveys.arrives (conveys : m.Conveys event type decode a) (id : Int64) :
    ∃ sent, m.setCorrelation id = .ok sent ∧
      ∀ (limit : Option Nat) (fragmentId : Int64) (d : Decoder), sent.wireSize < 2 ^ 31 → d.pending = [] →
        (usesFragmentId limit sent → d.find? fragmentId = none) →
        (usesFragmentId limit sent → d.fragments.length < d.limit) →
        ∃ bytes arrived, encodeMessage limit fragmentId sent = .ok bytes ∧ d.drain bytes = ⟨[arrived], none, d, []⟩ ∧
          arrived.Delivers event type id decode a := by
  obtain ⟨frames, unmarked, rfl, taken⟩ := conveys
  refine ⟨_, setCorrelation_headed frames id, fun limit fragmentId d small boundary fresh room => ?_⟩
  have formed := wellFormed_headed rfl unmarked small
  obtain ⟨bytes, encoded, read⟩ := Decoder.next_encoded limit fragmentId formed boundary fresh room
  exact ⟨bytes, _, encoded, Decoder.drain_of_next_last read, delivers_of_arrive rfl (.sentFrames _) taken⟩

end Message
end Datagrid
